import RequestBreakdown.Proofs.Limiter.Actions

/-!
# The tasks in the queue

Who waits at the limiter and which tasks are queued is the same thing, whatever
happens to the tasks.  Nobody else ever reaches the limiter, so that it stays
sound.
-/

namespace RequestBreakdown

namespace Clients

variable {α : Type} {s next : Clients α} {ticket : Ticket} {c : Client α}

/-- The limiter is sound, and those who wait at it are the tasks that are queued. -/
structure InLine (s : Clients α) : Prop where
  sound : s.limiter.Sound
  mem_pending : ∀ ticket, ticket ∈ s.limiter.pending ↔ s.phases[ticket]? = some .queued

theorem inLine_new (capacity : Nat) :
    ({ limiter := { capacity } } : Clients α).InLine :=
  ⟨Limiter.sound_new capacity, fun _ => by simp [Limiter.pending, Limiter.pendingIn, phases]⟩

theorem InLine.notMem_of_phase (hline : s.InLine) (hc : s.client? ticket = some c)
    (hphase : c.phase ≠ .queued) : ticket ∉ s.limiter.pending := by
  intro hmem
  have hqueued := (hline.mem_pending ticket).mp hmem
  rw [phases_of_client? hc] at hqueued
  exact hphase (Option.some.inj hqueued)

theorem InLine.mem_of_phase (hline : s.InLine) (hc : s.client? ticket = some c)
    (hphase : c.phase = .queued) : ticket ∈ s.limiter.pending :=
  (hline.mem_pending ticket).mpr (by rw [phases_of_client? hc, hphase])

theorem InLine.not_queued (hline : s.InLine) (hnone : s.limiter.pending = []) :
    ∀ c ∈ s.clients, c.phase ≠ .queued := by
  intro c hmem hphase
  obtain ⟨ticket, hlt, hget⟩ := List.getElem_of_mem hmem
  have hc : s.client? ticket = some c := hget ▸ List.getElem?_eq_getElem hlt
  have hpending := hline.mem_of_phase hc hphase
  simp [hnone] at hpending

/-- A task that was not queued, and is not now, changes nothing in the line. -/
theorem queued_set_iff {phases : List ClientPhase} {ticket other : Ticket}
    {phase : ClientPhase} (hold : phases[ticket]? ≠ some .queued) (hnew : phase ≠ .queued) :
    (phases.set ticket phase)[other]? = some .queued ↔ phases[other]? = some .queued := by
  rw [List.getElem?_set]
  by_cases heq : ticket = other
  · subst heq
    by_cases hlt : ticket < phases.length <;> simp_all
  · simp [heq]

theorem InLine.after_set (hline : s.InLine) {phase : ClientPhase}
    (hticket : ticket ∉ s.limiter.pending) (hnew : phase ≠ .queued)
    (hlimiter : next.limiter = s.limiter)
    (hphases : next.phases = s.phases.set ticket phase) : next.InLine := by
  refine ⟨hlimiter ▸ hline.sound, fun other => ?_⟩
  have hold : s.phases[ticket]? ≠ some .queued := fun hqueued =>
    hticket ((hline.mem_pending ticket).mpr hqueued)
  rw [hlimiter, hphases, queued_set_iff hold hnew]
  exact hline.mem_pending other

/-! ## Slots given back -/

/-- A slot that is given back goes to the first task in the line, and otherwise
is free. -/
theorem HandsOn.cases (hhands : s.HandsOn next) (hline : s.InLine) :
    (s.limiter.pending = [] ∧ next.limiter.active = s.limiter.active - 1 ∧
      next.limiter.pending = [] ∧ next.phases = s.phases) ∨
    ∃ first rest, s.limiter.pending = first :: rest ∧
      next.limiter.active = s.limiter.active ∧ next.limiter.pending = rest ∧
      s.phases[first]? = some .queued ∧ next.phases = s.phases.set first .granted := by
  obtain ⟨hlimiter, hphases⟩ := hhands
  rw [hlimiter, hphases]
  rcases Limiter.release_cases hline.sound with ⟨hnone, hgranted, hactive, hleft⟩ |
    ⟨first, rest, hpending, hgranted, hactive, hleft⟩
  · exact .inl ⟨hnone, hactive, hleft, by rw [hgranted]; rfl⟩
  · have hqueued := (hline.mem_pending first).mp (by simp [hpending])
    exact .inr ⟨first, rest, hpending, hactive, hleft, hqueued, by rw [hgranted]; rfl⟩

theorem HandsOn.inLine (hhands : s.HandsOn next) (hline : s.InLine) : next.InLine := by
  refine ⟨hhands.limiter ▸ hline.sound.release, fun other => ?_⟩
  have hold := hline.mem_pending other
  rcases hhands.cases hline with ⟨hnone, -, hleft, hphases⟩ |
    ⟨first, rest, hpending, -, hleft, hqueued, hphases⟩
  · rw [hleft, hphases, ← hold, hnone]
  · have hnodup := hline.sound.nodup
    rw [hpending, List.nodup_cons] at hnodup
    rw [hleft, hphases, List.getElem?_set]
    by_cases heq : first = other
    · subst heq
      by_cases hlt : first < s.phases.length <;> simp [hlt, hnodup.1]
    · rw [if_neg heq, ← hold, hpending, List.mem_cons]
      exact ⟨.inr, fun hor => hor.resolve_left (Ne.symm heq)⟩

theorem HandsOn.phase_eq {phase : ClientPhase} (hhands : s.HandsOn next)
    (hline : s.InLine) (hphase : s.phases[ticket]? = some phase)
    (hqueued : phase ≠ .queued) : next.phases[ticket]? = some phase := by
  rcases hhands.cases hline with ⟨-, -, -, hphases⟩ |
    ⟨first, rest, -, -, -, hfirst, hphases⟩
  · rw [hphases, hphase]
  · have hne : first ≠ ticket := by
      rintro rfl
      rw [hphase] at hfirst
      exact hqueued (Option.some.inj hfirst)
    rw [hphases, List.getElem?_set_ne hne, hphase]

/-- A task leaves its slot, and the slot goes on. -/
theorem Leaves.exists_handsOn (hleaves : Leaves ticket s next) :
    ∃ between : Clients α, s.HandsOn between ∧ next.limiter = between.limiter ∧
      next.phases = between.phases.set ticket .ended :=
  ⟨s.release, ⟨s.limiter_release, s.phases_release⟩,
    hleaves.limiter.trans s.limiter_release.symm, by rw [hleaves.phases, phases_release]⟩

theorem HandsOn.notMem (hhands : s.HandsOn next) (hline : s.InLine)
    (hticket : ticket ∉ s.limiter.pending) : ticket ∉ next.limiter.pending := by
  rcases hhands.cases hline with ⟨-, -, hleft, -⟩ | ⟨first, rest, hpending, -, hleft, -, -⟩
  · simp [hleft]
  · rw [hpending] at hticket
    rw [hleft]
    exact fun hmem => hticket (List.mem_cons_of_mem first hmem)

theorem Leaves.inLine (hleaves : Leaves ticket s next) (hline : s.InLine)
    (hticket : ticket ∉ s.limiter.pending) : next.InLine := by
  obtain ⟨between, hhands, hlimiter, hphases⟩ := hleaves.exists_handsOn
  exact (hhands.inLine hline).after_set (hhands.notMem hline hticket) (by decide)
    hlimiter hphases

/-! ## All actions -/

theorem Advances.phase_ne_queued {phase : ClientPhase} (hadvances : Advances c phase) :
    c.phase ≠ .queued ∧ phase ≠ .queued := by
  cases hadvances with
  | stopped hphase => simp [hphase]
  | gone hphase => simp [hphase]
  | held hphase => simp [hphase]
  | works hphase => rcases hphase with hphase | hphase <;> simp [hphase]

/-- What a request that is served at once comes to. -/
theorem InLine.request_at_once (hline : s.InLine)
    (hrequest : (s.limiter.request ticket).2 = true) :
    (s.limiter.request ticket).1 = { s.limiter with active := s.limiter.active + 1 } ∧
      s.limiter.active < s.limiter.capacity ∧ s.limiter.pending = [] := by
  rcases Limiter.request_cases hline.sound ticket with ⟨heq, hfree, hnone⟩ | ⟨_, heq, -⟩
  · exact ⟨congrArg Prod.fst heq, hfree, hnone⟩
  · simp [heq] at hrequest

theorem InLine.request_later (hline : s.InLine)
    (hrequest : (s.limiter.request ticket).2 = false) :
    (s.limiter.request ticket).1.active = s.limiter.active ∧
      (s.limiter.request ticket).1.pending = s.limiter.pending ++ [ticket] ∧
      s.limiter.active = s.limiter.capacity := by
  rcases Limiter.request_cases hline.sound ticket with ⟨heq, -⟩ | ⟨_, heq, hqueue, hfull⟩
  · simp [heq] at hrequest
  · rw [heq]
    exact ⟨rfl, hqueue, hfull⟩

/-- With a slot given at once, the line is as it was. -/
theorem InLine.of_request (hline : s.InLine)
    (hticket : ticket ∉ s.limiter.pending)
    (hrequest : (s.limiter.request ticket).2 = true) :
    ({ s with limiter := (s.limiter.request ticket).1 } : Clients α).InLine := by
  refine ⟨hline.sound.request hticket, fun other => ?_⟩
  dsimp only
  rw [(hline.request_at_once hrequest).1]
  exact hline.mem_pending other

theorem Change.inLine (hchange : Change s next) (hline : s.InLine) : next.InLine := by
  cases hchange with
  | rests hlimiter hphases =>
      exact ⟨hlimiter ▸ hline.sound, fun other => by
        rw [hlimiter, hphases]
        exact hline.mem_pending other⟩
  | begins hlimiter hphases =>
      refine ⟨hlimiter ▸ hline.sound, fun other => ?_⟩
      rw [hlimiter, hphases, hline.mem_pending other, List.getElem?_append]
      by_cases hlt : other < s.phases.length
      · simp [hlt]
      · simp [hlt, List.getElem?_singleton]
  | advances ticket c phase hc hadvances hlimiter hphases =>
      obtain ⟨hold, hnew⟩ := hadvances.phase_ne_queued
      exact hline.after_set (hline.notMem_of_phase hc hold) hnew hlimiter hphases
  | queues ticket c hc hphase hcancel hrequest hlimiter hphases =>
      have hticket := hline.notMem_of_phase hc (by simp [hphase])
      refine ⟨hlimiter ▸ hline.sound.request hticket, fun other => ?_⟩
      have hlt : ticket < s.phases.length :=
        (List.getElem?_eq_some_iff.mp (phases_of_client? hc)).1
      rw [hlimiter, hphases, (hline.request_later hrequest).2.1, List.mem_append,
        List.mem_singleton, hline.mem_pending other, List.getElem?_set]
      by_cases heq : ticket = other
      · subst heq
        simp [hlt]
      · simp [heq, Ne.symm heq]
  | enters ticket c phase hc hphase hcancel hrequest hstays hlimiter hphases =>
      have hticket := hline.notMem_of_phase hc (by simp [hphase])
      have hnew : phase ≠ .queued := by
        rcases hstays with hworks | ⟨hends, -⟩
        · simp [hworks]
        · simp [hends]
      have hasked := hline.of_request hticket hrequest
      refine hasked.after_set ?_ hnew hlimiter hphases
      dsimp only
      rw [(hline.request_at_once hrequest).1]
      exact hticket
  | passes ticket c hc hphase hcancel hrequest hleaves =>
      have hticket := hline.notMem_of_phase hc (by simp [hphase])
      refine hleaves.inLine (hline.of_request hticket hrequest) ?_
      dsimp only
      rw [(hline.request_at_once hrequest).1]
      exact hticket
  | leaves ticket c hc hphase hleaves =>
      refine hleaves.inLine hline (hline.notMem_of_phase hc ?_)
      rcases hphase with hphase | hphase <;> simp [hphase]
  | withdraws ticket c hc hphase hlimiter hphases =>
      refine ⟨hlimiter ▸ hline.sound.withdraw ticket, fun other => ?_⟩
      rw [hlimiter, hphases, Limiter.pending_withdraw, List.mem_filter,
        hline.mem_pending other, List.getElem?_set]
      by_cases heq : ticket = other
      · subst heq
        by_cases hlt : ticket < s.phases.length <;> simp [hlt]
      · simp [heq, Ne.symm heq]

theorem Change.capacity_eq (hchange : Change s next) :
    next.limiter.capacity = s.limiter.capacity := by
  have hrequest : ∀ ticket,
      (s.limiter.request ticket).1.capacity = s.limiter.capacity := by
    intro ticket
    unfold Limiter.request
    split <;> rfl
  cases hchange with
  | rests hlimiter => rw [hlimiter]
  | begins hlimiter => rw [hlimiter]
  | advances ticket c phase hc hadvances hlimiter => rw [hlimiter]
  | queues ticket c hc hphase hcancel hasked hlimiter =>
      rw [hlimiter, hrequest]
  | enters ticket c phase hc hphase hcancel hasked hstays hlimiter =>
      rw [hlimiter, hrequest]
  | passes ticket c hc hphase hcancel hasked hleaves =>
      rw [hleaves.limiter]
      exact hrequest ticket
  | leaves ticket c hc hphase hleaves =>
      rw [hleaves.limiter]
      rfl
  | withdraws ticket c hc hphase hlimiter =>
      rw [hlimiter]
      rfl

theorem capacity_perform (s : Clients α) (action : Action α) :
    (s.perform action).limiter.capacity = s.limiter.capacity := by
  rcases s.perform_cases action with hchange | ⟨name, -, hhands⟩
  · exact hchange.capacity_eq
  · rw [hhands.limiter]
    rfl

theorem capacity_run (s : Clients α) (actions : List (Action α)) :
    (s.run actions).limiter.capacity = s.limiter.capacity := by
  induction actions generalizing s with
  | nil => rfl
  | cons action rest ih => exact (ih (s.perform action)).trans (s.capacity_perform action)

theorem InLine.perform (hline : s.InLine) (action : Action α) :
    (s.perform action).InLine := by
  rcases s.perform_cases action with hchange | ⟨name, -, hhands⟩
  · exact hchange.inLine hline
  · exact hhands.inLine hline

theorem InLine.run (hline : s.InLine) (actions : List (Action α)) :
    (s.run actions).InLine := by
  induction actions generalizing s with
  | nil => exact hline
  | cons action rest ih => exact ih (hline.perform action)

end Clients

end RequestBreakdown
