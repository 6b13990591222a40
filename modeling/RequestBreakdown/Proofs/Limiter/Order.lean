import RequestBreakdown.Proofs.Limiter.FirstCome
import RequestBreakdown.Proofs.Limiter.Line

/-!
# The order in which tasks are admitted

What happens to a task at the limiter is read off its phase before and after an
action.  The log of a run, made up of that, is one in which those who come first are
served first: every request that is not served at once makes its task the last in
the line, a slot that is given back goes to the first, and there is no other way to
a slot while anybody waits.
-/

namespace RequestBreakdown

/-- What happened to a task that has come to another phase. -/
def Client.passages {α : Type} (c : Client α) (ticket : Ticket) (after : ClientPhase) :
    List Passage :=
  match c.phase, after with
  | .created, .created => []
  | .created, .queued => [.asked ticket]
  | .created, _ => if c.mustCancel then [] else [.asked ticket, .admitted ticket]
  | .queued, .queued => []
  | .queued, .withdrawn => [.gaveUp ticket]
  | .queued, _ => [.admitted ticket]
  | _, _ => []

/-- What the log says of a task in a phase. -/
def ClientPhase.IsTold (phase : ClientPhase) (ticket : Ticket) (log : List Passage) : Prop :=
  match phase with
  | .created => .asked ticket ∉ log
  | .queued => .asked ticket ∈ log
  | .withdrawn => [.asked ticket, .gaveUp ticket].Sublist log
  | .granted | .working => [.asked ticket, .admitted ticket].Sublist log
  | .ended => True

/-- The phases to which one action can bring a task. -/
def Client.successors {α : Type} (c : Client α) : List ClientPhase :=
  match c.phase with
  | .created => if c.mustCancel then [.created, .ended] else [.created, .queued, .working, .ended]
  | .queued => [.queued, .granted, .withdrawn]
  | .withdrawn => [.withdrawn, .ended]
  | .granted => [.granted, .working, .ended]
  | .working => [.working, .ended]
  | .ended => [.ended]

namespace Clients

variable {α : Type} {s next : Clients α} {ticket : Ticket} {c : Client α}

def passages (s next : Clients α) : List Passage :=
  (List.range s.clients.length).flatMap fun ticket =>
    match s.client? ticket, next.phases[ticket]? with
    | some c, some after => c.passages ticket after
    | _, _ => []

/-- What happens at the limiter in the course of a run. -/
def history (s : Clients α) : List (Action α) → List Passage
  | [] => []
  | action :: rest => s.passages (s.perform action) ++ (s.perform action).history rest

/-! ## Reading the phases -/

theorem passages_self (c : Client α) (ticket : Ticket) : c.passages ticket c.phase = [] := by
  unfold Client.passages
  cases c.phase <;> rfl

theorem ticket_of_mem {passage : Passage} {after : ClientPhase}
    (hmem : passage ∈ c.passages ticket after) : passage.ticket = ticket := by
  unfold Client.passages at hmem
  grind [Passage.ticket]

theorem phase_of_asked {after : ClientPhase} {other : Ticket}
    (hmem : .asked other ∈ c.passages ticket after) : c.phase = .created := by
  unfold Client.passages at hmem
  grind

theorem lt_of_client? (hc : s.client? ticket = some c) : ticket < s.clients.length :=
  (List.getElem?_eq_some_iff.mp hc).1

theorem mem_passages {passage : Passage} (hmem : passage ∈ s.passages next) :
    ∃ c after, s.client? passage.ticket = some c ∧
      next.phases[passage.ticket]? = some after ∧
      passage ∈ c.passages passage.ticket after := by
  obtain ⟨ticket, -, hmem⟩ := List.mem_flatMap.mp hmem
  split at hmem
  · rename_i c after hc hafter
    obtain rfl := ticket_of_mem hmem
    exact ⟨c, after, hc, hafter, hmem⟩
  · simp at hmem

theorem passages_sublist {after : ClientPhase} (hc : s.client? ticket = some c)
    (hafter : next.phases[ticket]? = some after) :
    (c.passages ticket after).Sublist (s.passages next) := by
  unfold passages
  rw [List.flatMap_def]
  apply List.sublist_flatten_of_mem
  refine List.mem_map.mpr ⟨ticket, List.mem_range.mpr (lt_of_client? hc), ?_⟩
  simp only [hc, hafter]

theorem flatMap_range_single {β : Type} {f : Nat → List β} {length place : Nat}
    (hplace : place < length) (hothers : ∀ other, other ≠ place → f other = []) :
    (List.range length).flatMap f = f place := by
  induction length with
  | zero => omega
  | succ length ih =>
      rw [List.range_succ, List.flatMap_append, List.flatMap_singleton]
      by_cases heq : place = length
      · subst heq
        have hnone : (List.range place).flatMap f = [] :=
          List.flatMap_eq_nil_iff.mpr fun other hmem =>
            hothers other (Nat.ne_of_lt (List.mem_range.mp hmem))
        rw [hnone, List.nil_append]
      · rw [ih (by omega), hothers length (Ne.symm heq), List.append_nil]

theorem passages_of_set {after : ClientPhase} (hc : s.client? ticket = some c)
    (hphases : next.phases = s.phases.set ticket after) :
    s.passages next = c.passages ticket after := by
  have hlt : ticket < s.phases.length := by
    simpa [length_phases] using lt_of_client? hc
  unfold passages
  rw [flatMap_range_single (lt_of_client? hc)]
  · simp [hc, hphases, hlt]
  · intro other hne
    cases hother : s.client? other with
    | none => rfl
    | some before =>
        simp [hphases, List.getElem?_set_ne (Ne.symm hne), phases_of_client? hother,
          passages_self]

theorem passages_of_same (hphases : ∀ ticket c, s.client? ticket = some c →
    next.phases[ticket]? = some c.phase) : s.passages next = [] := by
  apply List.flatMap_eq_nil_iff.mpr
  intro ticket hmem
  cases hc : s.client? ticket with
  | none => rfl
  | some c => simp [hphases ticket c hc, passages_self]

/-! ## One action -/

/-- What an action makes of the log, of the line and of each task. -/
structure Tells (s next : Clients α) : Prop where
  serves : Serves s.limiter.pending (s.passages next) next.limiter.pending
  succeeds : ∀ ticket c, s.client? ticket = some c →
    ∃ after, next.phases[ticket]? = some after ∧ after ∈ c.successors
  fresh : ∀ ticket phase, s.phases.length ≤ ticket →
    next.phases[ticket]? = some phase → phase = .created

theorem fresh_of_length (hlength : next.phases.length = s.phases.length) :
    ∀ ticket phase, s.phases.length ≤ ticket →
      next.phases[ticket]? = some phase → phase = .created := by
  intro ticket phase hle hphase
  rw [List.getElem?_eq_none (hlength ▸ hle)] at hphase
  exact nomatch hphase

theorem mem_successors_self (c : Client α) : c.phase ∈ c.successors := by
  unfold Client.successors
  cases c.phase <;> cases c.mustCancel <;> decide

theorem succeeds_of_set {after : ClientPhase} (hc : s.client? ticket = some c)
    (hphases : next.phases = s.phases.set ticket after)
    (hafter : after ∈ c.successors) :
    ∀ other before, s.client? other = some before →
      ∃ after, next.phases[other]? = some after ∧ after ∈ before.successors := by
  intro other before hbefore
  have hlt : ticket < s.phases.length := by
    simpa [length_phases] using lt_of_client? hc
  rw [hphases]
  by_cases heq : ticket = other
  · subst heq
    obtain rfl : c = before := Option.some.inj (hc.symm.trans hbefore)
    exact ⟨after, by simp [hlt], hafter⟩
  · refine ⟨before.phase, ?_, mem_successors_self _⟩
    rw [List.getElem?_set_ne heq, phases_of_client? hbefore]

theorem Tells.of_same (hphases : ∀ ticket c, s.client? ticket = some c →
      next.phases[ticket]? = some c.phase)
    (hpending : next.limiter.pending = s.limiter.pending)
    (hfresh : ∀ ticket phase, s.phases.length ≤ ticket →
      next.phases[ticket]? = some phase → phase = .created) : Tells s next := by
  refine ⟨?_, fun ticket c hc => ⟨c.phase, hphases ticket c hc, mem_successors_self c⟩, hfresh⟩
  rw [passages_of_same hphases, hpending]
  exact .nobody _

theorem Tells.of_set {after : ClientPhase} (hc : s.client? ticket = some c)
    (hphases : next.phases = s.phases.set ticket after)
    (hafter : after ∈ c.successors)
    (hserves : Serves s.limiter.pending (c.passages ticket after) next.limiter.pending) :
    Tells s next :=
  ⟨passages_of_set hc hphases ▸ hserves, succeeds_of_set hc hphases hafter,
    fresh_of_length (by simp [hphases])⟩

theorem HandsOn.tells (hhands : s.HandsOn next) (hline : s.InLine) : Tells s next := by
  rcases hhands.cases hline with ⟨hnone, -, hleft, hphases⟩ |
    ⟨first, rest, hpending, -, hleft, hqueued, hphases⟩
  · exact Tells.of_same (fun ticket c hc => hphases ▸ phases_of_client? hc)
      (hleft.trans hnone.symm) (fresh_of_length (by rw [hphases]))
  · obtain ⟨c, hc, hphase⟩ := exists_client?_of_phases hqueued
    refine Tells.of_set hc hphases (by simp [Client.successors, hphase]) ?_
    have hadmitted : c.passages first .granted = [.admitted first] := by
      simp [Client.passages, hphase]
    rw [hpending, hleft, hadmitted]
    exact .first first rest

/-- Whoever leaves a slot has nothing more to do with the limiter. -/
theorem Leaves.tells (hleaves : Leaves ticket s next) (hline : s.InLine)
    (hc : s.client? ticket = some c) (hphase : c.phase = .granted ∨ c.phase = .working) :
    Tells s next := by
  obtain ⟨between, hhands, hlimiter, hphases⟩ := hleaves.exists_handsOn
  have htells := hhands.tells hline
  have hqueued : c.phase ≠ .queued := by
    rcases hphase with hphase | hphase <;> simp [hphase]
  have hbetween := hhands.phase_eq hline (phases_of_client? hc) hqueued
  have hlt : ticket < between.phases.length := (List.getElem?_eq_some_iff.mp hbetween).1
  have hpassages : s.passages next = s.passages between := by
    apply List.flatMap_congr
    intro other hmem
    by_cases heq : ticket = other
    · subst heq
      have hended : c.passages ticket .ended = [] := by
        rcases hphase with hphase | hphase <;> simp [Client.passages, hphase]
      simp only [hc, hbetween, hphases, List.getElem?_set_self hlt, hended, passages_self]
    · rw [hphases, List.getElem?_set_ne heq]
  refine ⟨?_, fun other before hbefore => ?_, fun other phase hle hother => ?_⟩
  · rw [hpassages, hlimiter]
    exact htells.serves
  · rw [hphases]
    by_cases heq : ticket = other
    · subst heq
      obtain rfl : c = before := Option.some.inj (hc.symm.trans hbefore)
      refine ⟨.ended, by simp [hlt], ?_⟩
      rcases hphase with hphase | hphase <;> simp [hphase, Client.successors]
    · rw [List.getElem?_set_ne heq]
      exact htells.succeeds other before hbefore
  · have hne : ticket ≠ other := by
      rintro rfl
      rw [length_phases] at hle
      exact Nat.not_lt.mpr hle (lt_of_client? hc)
    rw [hphases, List.getElem?_set_ne hne] at hother
    exact htells.fresh other phase hle hother

theorem passages_created {after : ClientPhase} (hphase : c.phase = .created)
    (hcancel : c.mustCancel = false) (hafter : after = .working ∨ after = .ended) :
    c.passages ticket after = [.asked ticket, .admitted ticket] := by
  rcases hafter with rfl | rfl <;> simp [Client.passages, hphase, hcancel]

theorem Advances.tells {after : ClientPhase} (hadvances : Advances c after)
    (ticket : Ticket) :
    c.passages ticket after = [] ∧ after ∈ c.successors := by
  cases hadvances with
  | stopped hphase hcancel =>
      simp [Client.passages, hphase, hcancel, Client.successors]
  | gone hphase => simp [Client.passages, hphase, Client.successors]
  | held hphase => simp [Client.passages, hphase, Client.successors]
  | works hphase =>
      rcases hphase with hphase | hphase <;>
        simp [Client.passages, hphase, Client.successors]

theorem Change.tells (hchange : Change s next) (hline : s.InLine) : Tells s next := by
  cases hchange with
  | rests hlimiter hphases =>
      exact Tells.of_same (fun ticket c hc => hphases ▸ phases_of_client? hc)
        (congrArg Limiter.pending hlimiter) (fresh_of_length (by rw [hphases]))
  | begins hlimiter hphases =>
      refine Tells.of_same (fun ticket c hc => ?_) (congrArg Limiter.pending hlimiter) ?_
      · have hlt : ticket < s.phases.length := by
          simpa [length_phases] using lt_of_client? hc
        rw [hphases, List.getElem?_append_left hlt, phases_of_client? hc]
      · intro ticket phase hle hphase
        rw [hphases, List.getElem?_append_right hle] at hphase
        exact List.mem_singleton.mp (List.mem_of_getElem? hphase)
  | advances ticket c phase hc hadvances hlimiter hphases =>
      obtain ⟨hnothing, hafter⟩ := hadvances.tells ticket
      refine Tells.of_set hc hphases hafter ?_
      rw [hnothing, hlimiter]
      exact .nobody _
  | queues ticket c hc hphase hcancel hrequest hlimiter hphases =>
      refine Tells.of_set hc hphases (by simp [Client.successors, hphase, hcancel]) ?_
      have hasked : c.passages ticket .queued = [.asked ticket] := by
        simp [Client.passages, hphase]
      rw [hlimiter, (hline.request_later hrequest).2.1, hasked]
      exact .later _ ticket
  | enters ticket c phase hc hphase hcancel hrequest hstays hlimiter hphases =>
      have hafter : phase = .working ∨ phase = .ended := hstays.imp_right And.left
      have hsucceeds : phase ∈ c.successors := by
        rcases hafter with rfl | rfl <;> simp [Client.successors, hphase, hcancel]
      obtain ⟨hlimiter', -, hnone⟩ := hline.request_at_once hrequest
      refine Tells.of_set hc hphases hsucceeds ?_
      have hleft : next.limiter.pending = [] := by
        rw [hlimiter, hlimiter']
        exact hnone
      rw [passages_created hphase hcancel hafter, hnone, hleft]
      exact .atOnce ticket
  | passes ticket c hc hphase hcancel hrequest hleaves =>
      obtain ⟨hlimiter', -, hnone⟩ := hline.request_at_once hrequest
      have hticket := hline.notMem_of_phase hc (by simp [hphase])
      obtain ⟨between, hhands, hlimiter, hphases⟩ := hleaves.exists_handsOn
      have hasked : (s.limiter.request ticket).1.pending = [] := by
        rw [hlimiter']
        exact hnone
      rcases hhands.cases (hline.of_request hticket hrequest) with
        ⟨-, -, hleft, hbetween⟩ | ⟨first, rest, hpending, -⟩
      · have hset : next.phases = s.phases.set ticket .ended := by
          rw [hphases, hbetween]
          rfl
        refine Tells.of_set hc hset (by simp [Client.successors, hphase, hcancel]) ?_
        rw [passages_created hphase hcancel (.inr rfl), hnone, hlimiter, hleft]
        exact .atOnce ticket
      · exact absurd (hasked.symm.trans hpending) (by simp)
  | leaves ticket c hc hphase hleaves => exact hleaves.tells hline hc hphase
  | withdraws ticket c hc hphase hlimiter hphases =>
      refine Tells.of_set hc hphases (by simp [Client.successors, hphase]) ?_
      have hgaveUp : c.passages ticket .withdrawn = [.gaveUp ticket] := by
        simp [Client.passages, hphase]
      rw [hlimiter, Limiter.pending_withdraw, hgaveUp]
      exact .withdrawal _ ticket (hline.mem_of_phase hc hphase)

theorem tells_perform (hline : s.InLine) (action : Action α) :
    Tells s (s.perform action) := by
  rcases s.perform_cases action with hchange | ⟨name, -, hhands⟩
  · exact hchange.tells hline
  · exact hhands.tells hline

/-! ## Whole runs -/

/-- A log that tells how a state came about. -/
structure Told (log : List Passage) (s : Clients α) : Prop where
  line : s.InLine
  come : FirstCome log s.limiter.pending
  known : ∀ ticket, .asked ticket ∈ log → ticket < s.clients.length
  told : ∀ ticket c, s.client? ticket = some c → c.phase.IsTold ticket log

theorem told_new (capacity : Nat) : Told [] ({ limiter := { capacity } } : Clients α) :=
  ⟨inLine_new capacity, .nobody, by simp, by simp [client?]⟩

/-- What is told of a task before an action, and what the action adds, is what has to
be told of it afterwards. -/
theorem isTold_append {log added : List Passage} {after : ClientPhase}
    (htold : c.phase.IsTold ticket log) (hafter : after ∈ c.successors)
    (hadded : (c.passages ticket after).Sublist added)
    (hown : .asked ticket ∈ added → .asked ticket ∈ c.passages ticket after) :
    after.IsTold ticket (log ++ added) := by
  have hkeeps : ∀ {passages : List Passage}, passages.Sublist log →
      passages.Sublist (log ++ added) :=
    fun hsub => hsub.trans (List.sublist_append_left log added)
  unfold Client.successors at hafter
  unfold Client.passages at hadded hown
  cases hphase : c.phase with
  | created =>
      have hnew : .asked ticket ∉ log := by simpa [hphase, ClientPhase.IsTold] using htold
      have hcases : after = .created ∨ after = .ended ∨
          c.mustCancel = false ∧ (after = .queued ∨ after = .working) := by
        cases hcancel : c.mustCancel <;> simp [hphase, hcancel] at hafter ⊢ <;> tauto
      rcases hcases with rfl | rfl | ⟨hcancel, rfl | rfl⟩
      · have hnone : .asked ticket ∉ added := by simpa [hphase] using hown
        simp [ClientPhase.IsTold, hnew, hnone]
      · trivial
      · have hasked : [.asked ticket].Sublist added := by simpa [hphase] using hadded
        exact List.mem_append_right _ (List.singleton_sublist.mp hasked)
      · have hadmitted : [.asked ticket, .admitted ticket].Sublist added := by
          simpa [hphase, hcancel] using hadded
        exact hadmitted.trans (List.sublist_append_right log added)
  | queued =>
      have hasked : .asked ticket ∈ log := by simpa [hphase, ClientPhase.IsTold] using htold
      have hfirst : [.asked ticket].Sublist log := List.singleton_sublist.mpr hasked
      simp only [hphase, List.mem_cons, List.not_mem_nil, or_false] at hafter
      rcases hafter with rfl | rfl | rfl
      · exact List.mem_append_left _ hasked
      · have hadmitted : [.admitted ticket].Sublist added := by simpa [hphase] using hadded
        exact hfirst.append hadmitted
      · have hgaveUp : [.gaveUp ticket].Sublist added := by simpa [hphase] using hadded
        exact hfirst.append hgaveUp
  | withdrawn =>
      rw [hphase] at htold
      simp only [hphase, List.mem_cons, List.not_mem_nil, or_false] at hafter
      rcases hafter with rfl | rfl
      · exact hkeeps htold
      · trivial
  | granted =>
      rw [hphase] at htold
      simp only [hphase, List.mem_cons, List.not_mem_nil, or_false] at hafter
      rcases hafter with rfl | rfl | rfl
      · exact hkeeps htold
      · exact hkeeps htold
      · trivial
  | working =>
      rw [hphase] at htold
      simp only [hphase, List.mem_cons, List.not_mem_nil, or_false] at hafter
      rcases hafter with rfl | rfl
      · exact hkeeps htold
      · trivial
  | ended =>
      simp only [hphase, List.mem_cons, List.not_mem_nil, or_false] at hafter
      rw [hafter]
      trivial

theorem Told.perform {log : List Passage} (htold : Told log s) (action : Action α) :
    Told (log ++ s.passages (s.perform action)) (s.perform action) := by
  have htells := tells_perform htold.line action
  have hnew : ∀ ticket, .asked ticket ∈ s.passages (s.perform action) →
      .asked ticket ∉ log := by
    intro ticket hmem
    obtain ⟨c, after, hc, -, hasked⟩ := mem_passages hmem
    have hcreated := htold.told ticket c hc
    rwa [phase_of_asked hasked] at hcreated
  refine ⟨htold.line.perform action, htold.come.append htells.serves hnew, ?_, ?_⟩
  · intro ticket hmem
    have hlt : ticket < s.clients.length := by
      rcases List.mem_append.mp hmem with hold | hadded
      · exact htold.known ticket hold
      · obtain ⟨c, -, hc, -⟩ := mem_passages hadded
        exact lt_of_client? hc
    obtain ⟨after, hafter, -⟩ := htells.succeeds ticket _ (List.getElem?_eq_getElem hlt)
    simpa [length_phases] using (List.getElem?_eq_some_iff.mp hafter).1
  · intro ticket now hnow
    by_cases hlt : ticket < s.clients.length
    · have hc : s.client? ticket = some s.clients[ticket] := List.getElem?_eq_getElem hlt
      obtain ⟨after, hafter, hsucceeds⟩ := htells.succeeds ticket _ hc
      obtain rfl : now.phase = after := by
        rw [phases_of_client? hnow] at hafter
        exact Option.some.inj hafter
      refine isTold_append (htold.told ticket _ hc) hsucceeds (passages_sublist hc hafter) ?_
      intro hmem
      obtain ⟨c, after, hc', hafter', hasked⟩ := mem_passages hmem
      obtain rfl : s.clients[ticket] = c := Option.some.inj (hc.symm.trans hc')
      obtain rfl : now.phase = after := Option.some.inj (hafter.symm.trans hafter')
      exact hasked
    · -- The task is new, and nobody has heard of it.
      have hcreated := htells.fresh ticket now.phase
        (by simpa [length_phases] using hlt) (phases_of_client? hnow)
      rw [hcreated]
      intro hmem
      rcases List.mem_append.mp hmem with hold | hadded
      · exact hlt (htold.known ticket hold)
      · obtain ⟨c, -, hc, -⟩ := mem_passages hadded
        exact hlt (lt_of_client? hc)

theorem Told.run {log : List Passage} (htold : Told log s) (actions : List (Action α)) :
    Told (log ++ s.history actions) (s.run actions) := by
  induction actions generalizing log s with
  | nil =>
      rw [history, List.append_nil]
      exact htold
  | cons action rest ih =>
      rw [history, ← List.append_assoc]
      exact ih (htold.perform action)

/-- Whoever is admitted was not preceded by a request that still waits: those who
asked earlier were admitted earlier, or gave up before.  No newcomer is admitted while
a task is queued.  The log tells of every task that is queued, has given up or has a
slot. -/
theorem first_come_first_served {bound : Int} (hbound : 1 ≤ bound) :
    ∃ limiter, Limiter.ofBound (.int bound) = .ok limiter ∧
      ∀ actions : List (Action α),
        let start : Clients α := { limiter }
        let log := start.history actions
        let s := start.run actions
        (∀ first second, [.asked first, .asked second].Sublist log →
          .admitted second ∈ log →
            [.admitted first, .admitted second].Sublist log ∨
              [.gaveUp first, .admitted second].Sublist log) ∧
        (∀ action ticket, .asked ticket ∈ s.passages (s.perform action) →
          .admitted ticket ∈ s.passages (s.perform action) →
            ∀ c ∈ s.clients, c.phase ≠ .queued) ∧
        ∀ ticket c, s.client? ticket = some c → c.phase.IsTold ticket log := by
  refine ⟨_, Limiter.ofBound_int hbound, fun actions => ?_⟩
  intro start log s
  have htold : Told log s := (told_new bound.toNat).run actions
  refine ⟨fun first second => htold.come.fair, ?_, htold.told⟩
  intro action ticket hasked hadmitted
  have hserves := (tells_perform htold.line action).serves
  exact htold.line.not_queued (hserves.line_eq_nil hasked hadmitted)

/-- Of three tasks for one slot the second gives up, and the first leaves before the
second resumes. -/
def secondGivesUp : List (Action Nat) :=
  [.create .worker "first", .create .worker "second", .create .worker "third",
    .resume 0, .resume 0, .resume 0, .cancel 1, .endWork 0 (.finished 5), .resume 1]

theorem first_come_first_served_withdrawal :
    ∃ limiter, Limiter.ofBound (.int 1) = .ok limiter ∧
      let log := ({ limiter } : Clients Nat).history secondGivesUp
      log = [.asked 0, .admitted 0, .asked 1, .asked 2, .gaveUp 1, .admitted 2] ∧
        ([.admitted 1, .admitted 2].Sublist log ∨ [.gaveUp 1, .admitted 2].Sublist log) := by
  obtain ⟨limiter, hlimiter, hall⟩ :=
    @first_come_first_served Nat 1 (by decide)
  have hone : limiter = { capacity := 1 } := by
    have hbound := (@Limiter.ofBound_int 1 (by decide)).symm.trans hlimiter
    exact (Except.ok.inj hbound).symm
  have hlog : ({ limiter } : Clients Nat).history secondGivesUp =
      [.asked 0, .admitted 0, .asked 1, .asked 2, .gaveUp 1, .admitted 2] := by
    subst hone
    decide
  have hfair := (hall secondGivesUp).1 1 2
  rw [hlog] at hfair
  refine ⟨limiter, hlimiter, hlog, ?_⟩
  rw [hlog]
  exact hfair (by decide) (by decide)

end Clients

end RequestBreakdown
