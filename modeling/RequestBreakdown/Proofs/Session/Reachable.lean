import Mathlib.Logic.Relation
import RequestBreakdown.Proofs.Session.Records

/-!
# Reachable sessions

What can happen to a session: its tasks take their turns, loads are ordered,
queries are answered, activities begin or are cancelled, the records are put
aside and the settings change, at any moment and in any order.  What holds
of a session through all of that is collected in one invariant.
-/

namespace RequestBreakdown

namespace Session

variable {s next : Session} {actor : TaskId}

structure IsNew (s : Session) : Prop where
  registry : s.registry = {}
  records : s.records = []
  shown : s.shown = []
  tasks : s.tasks = []
  ready : s.ready = []

/-- What can happen to a session.  An activity that a load is ordered for is one
that the registry has handed out, and so one that has begun. -/
inductive Move : Session → Session → Prop where
  | step {s next : Session} (hstep : s.step? = some next) : Move s next
  | order (s : Session) (order : LoadOrder)
      (hbegun : ∀ a, order.activity = some a → s.registry.HasBegun a) :
      Move s (s.addLoad order).1
  | orderAll (s : Session) (filters : List Filter) (window : TimeWindow)
      (scope : Value) : Move s (s.addGroup filters window scope).1
  | answer {s next : Session} {query : Value} {given : BackendAnswer}
      (hanswer : s.answer query given = .ok next) : Move s next
  | effect {s next : Session} {effect : Effect}
      (heffect : s.applyEffect effect = .ok next) : Move s next
  | reset (s : Session) : Move s s.resetProgress
  | configure (s : Session) (planner : SamplingPlanner) (now : Timestamp)
      (breakdowns : List Breakdown) (topN : Value) (modes : CountingModes)
      (script : Script BackendAnswer) (honorsTokens : Bool)
      (clock : ScriptedClock) :
      Move s { s with
        planner, now, breakdowns, topN, modes, script, honorsTokens, clock }

abbrev LeadsTo : Session → Session → Prop := Relation.ReflTransGen Move

theorem leadsTo_settleWithin (fuel : Nat) (s : Session) :
    s.LeadsTo (settleWithin fuel s) := by
  induction fuel generalizing s with
  | zero => exact .refl
  | succ fuel ih =>
      unfold settleWithin
      cases hstep : s.step? with
      | none => exact .refl
      | some next => exact (ih next).head (.step hstep)

def Reachable (s : Session) : Prop := ∃ first : Session, first.IsNew ∧ first.LeadsTo s

theorem Reachable.leadsTo {s next : Session} (hreachable : s.Reachable)
    (hleads : s.LeadsTo next) : next.Reachable := by
  obtain ⟨first, hnew, hfrom⟩ := hreachable
  exact ⟨first, hnew, hfrom.trans hleads⟩

/-! ## The invariant -/

/-- A task is to start at most once, and only if it has not begun. -/
def StartsOnce (s : Session) : Prop :=
  ∀ id : Nat, s.ready.count (.start id) ≤ 1 ∧
    (0 < s.ready.count (.start id) → id < s.tasks.length ∧
      ∀ t, s.loadTask? id = some t → t.state = .created)

structure Sound (s : Session) : Prop where
  runs : s.RunsSound
  explained : s.Explained
  starts : s.StartsOnce

theorem IsNew.sound (hnew : s.IsNew) : s.Sound := by
  have hload : ∀ id, s.loadTask? id = none := by
    intro id
    simp [loadTask?, hnew.tasks]
  have hruns : s.RunsSound := by
    constructor
    · intro scope a hlatest
      rw [hnew.registry] at hlatest
      exact absurd hlatest (by simp [ActivityRegistry.latestIn?])
    · intro key r hlookup
      simp [hnew.shown] at hlookup
    · intro id t a ht
      exact absurd ht (by simp [hload])
    · intro id t run ht
      exact absurd ht (by simp [hload])
  constructor
  · exact hruns
  · intro r herror
    simp [Session.record, hnew.records] at herror
  · intro id
    simp [hnew.ready]

theorem StartsOnce.of_turn (hstarts : s.StartsOnce) (hturn : Turn actor s next)
    (hplace : actor < s.tasks.length ∨ next.tasks.length ≤ actor)
    (hactor : ∀ t, s.loadTask? actor = some t →
      s.ready.count (.start actor) = 0) : next.StartsOnce := by
  intro id
  have hcount := hturn.starts id
  have hlength := hturn.length_le
  obtain ⟨honce, hcreated⟩ := hstarts id
  by_cases hnew : s.tasks.length ≤ id ∧ id < next.tasks.length
  · rw [if_pos hnew] at hcount
    have hzero : s.ready.count (.start id) = 0 := by
      rcases Nat.eq_zero_or_pos (s.ready.count (.start id)) with hzero | hpos
      · exact hzero
      · exact absurd (hcreated hpos).1 (Nat.not_lt.mpr hnew.1)
    refine ⟨by omega, fun _ => ⟨hnew.2, ?_⟩⟩
    intro u hu
    have hnone : s.loadTask? id = none := by
      cases hold : s.loadTask? id with
      | none => rfl
      | some t => exact absurd (lt_of_loadTask? hold) (Nat.not_lt.mpr hnew.1)
    apply (hturn.fresh id u hu hnone).2
    rintro rfl
    rcases hplace with hlt | hle
    · exact absurd hlt (Nat.not_lt.mpr hnew.1)
    · exact absurd hnew.2 (Nat.not_lt.mpr hle)
  · rw [if_neg hnew] at hcount
    refine ⟨by omega, ?_⟩
    intro hpos
    obtain ⟨hid, hstate⟩ := hcreated (by omega)
    refine ⟨by omega, ?_⟩
    intro u hu
    cases hold : s.loadTask? id with
    | none => exact absurd hid (Nat.not_lt.mpr (hturn.fresh id u hu hold).1)
    | some t =>
        obtain ⟨v, hv, _, hidles⟩ := hturn.loads id t hold
        obtain rfl : u = v := Option.some.inj (hu.symm.trans hv)
        by_cases heq : id = actor
        · subst heq
          have hzero := hactor t hold
          omega
        · exact (hstate t hold ▸ hidles heq).eq_created

theorem loadTask?_of_groupTask? {id : TaskId} {g : GroupTask}
    (hgroup : s.groupTask? id = some g) :
    id < s.tasks.length ∧ s.loadTask? id = none := by
  unfold groupTask? at hgroup
  split at hgroup
  · rename_i h
    exact ⟨(List.getElem?_eq_some_iff.mp h).1, by simp [loadTask?, h]⟩
  · exact absurd hgroup (by simp)

/-- An event changes nothing, or it is the start of a task, or it concerns a
task that has begun. -/
theorem handle_eq_or (s : Session) (event : TaskEvent) :
    s.handle event = s ∨ ∃ actor, s.eventTask? event = some actor ∧
      actor < s.tasks.length ∧ ∀ t, s.loadTask? actor = some t →
        event = .start actor ∨ t.state ≠ .created := by
  have hload : ∀ {id : TaskId} {t : LoadTask}, s.loadTask? id = some t →
      t.state ≠ .created → ∀ u, s.loadTask? id = some u →
        event = .start id ∨ u.state ≠ .created := by
    intro id t hload hstate u hu
    obtain rfl := Option.some.inj (hload.symm.trans hu)
    exact .inr hstate
  have hgroup : ∀ {id : TaskId} {g : GroupTask}, s.groupTask? id = some g →
      id < s.tasks.length ∧ ∀ t, s.loadTask? id = some t →
        event = .start id ∨ t.state ≠ .created := by
    intro id g hgroup
    obtain ⟨hlt, hnone⟩ := loadTask?_of_groupTask? hgroup
    exact ⟨hlt, fun t ht => absurd ht (by simp [hnone])⟩
  cases event with
  | start id =>
      cases htask : s.tasks[id]? with
      | none => exact .inl (by simp [handle, htask])
      | some task =>
          exact .inr ⟨id, rfl, (List.getElem?_eq_some_iff.mp htask).1,
            fun _ _ => .inl rfl⟩
  | enter id =>
      cases hfound : s.loadTask? id with
      | none => exact .inl (by simp [handle, hfound])
      | some t =>
          by_cases hstate : t.state = .created
          · exact .inl (by simp [handle, hfound, hstate])
          · exact .inr ⟨id, rfl, lt_of_loadTask? hfound, hload hfound hstate⟩
  | receive query =>
      cases hquery : s.queries[query]? with
      | none => exact .inl (by simp [handle, receive, hquery])
      | some q =>
          cases hfound : s.loadTask? q.task with
          | none => exact .inl (by simp [handle, receive, hquery, hfound])
          | some t =>
              by_cases hstate : t.state = .created
              · exact .inl (by simp [handle, receive, hquery, hfound, hstate])
              · exact .inr ⟨q.task, by simp [eventTask?, hquery],
                  lt_of_loadTask? hfound, hload hfound hstate⟩
  | childOver parent fault =>
      cases hfound : s.groupTask? parent with
      | none => exact .inl (by simp [handle, hfound])
      | some g => exact .inr ⟨parent, rfl, hgroup hfound⟩
  | gathered id =>
      cases hfound : s.groupTask? id with
      | none => exact .inl (by simp [handle, hfound])
      | some g => exact .inr ⟨id, rfl, hgroup hfound⟩

/-! ## Moves keep the invariant -/

theorem step?_eq_some (hstep : s.step? = some next) :
    ∃ event rest, s.ready = event :: rest ∧
      next = handle { s with ready := rest } event := by
  unfold step? at hstep
  split at hstep
  · exact absurd hstep (by simp)
  · rename_i event rest hready
    exact ⟨event, rest, hready, (Option.some.inj hstep).symm⟩

theorem Sound.step (hsound : s.Sound) (hstep : s.step? = some next) :
    next.Sound := by
  obtain ⟨event, rest, hready, rfl⟩ := step?_eq_some hstep
  let taken : Session := { s with ready := rest }
  have hcount : ∀ id : Nat, s.ready.count (.start id) =
      rest.count (.start id) + if event = .start id then 1 else 0 := by
    intro id
    rw [hready, List.count_cons]
    simp
  have hruns : taken.RunsSound := hsound.runs.of_ready rest
  have hstarts : taken.StartsOnce := by
    intro id
    obtain ⟨honce, hcreated⟩ := hsound.starts id
    have hid := hcount id
    exact ⟨show rest.count _ ≤ 1 by omega,
      fun hpos : 0 < rest.count _ => hcreated (by omega)⟩
  have hcreated : ∀ id t, event = .start id → taken.loadTask? id = some t →
      t.state = .created := by
    rintro id t rfl hload
    have hid := hcount id
    rw [if_pos rfl] at hid
    exact ((hsound.starts id).2 (by omega)).2 t hload
  have hexplained := explained_handle hruns hsound.explained hcreated
  rcases taken.handle_eq_or event with hidle | ⟨actor, hactor, hlt, hbegun⟩
  · exact ⟨hidle ▸ hruns, hexplained, hidle ▸ hstarts⟩
  · have hturn : Turn actor taken (taken.handle event) :=
      turn_handle hruns fun id hid =>
        Option.some.inj (hid.symm.trans hactor)
    refine ⟨hturn.runsSound hruns, hexplained,
      hstarts.of_turn hturn (.inl hlt) fun t hload => ?_⟩
    show rest.count (.start actor) = 0
    rcases hbegun t hload with hevent | hstate
    · have hid := hcount actor
      rw [if_pos hevent] at hid
      have honce := (hsound.starts actor).1
      omega
    · rcases Nat.eq_zero_or_pos (rest.count (.start actor)) with hzero | hpos
      · exact hzero
      · exact absurd (((hstarts actor).2 hpos).2 t hload) hstate

theorem Sound.of_turn (hsound : s.Sound) (hturn : ∀ actor, Turn actor s next)
    (hrecords : next.records = s.records) : next.Sound := by
  -- Of a task that there is not.
  have hnone : s.loadTask? next.tasks.length = none := by
    cases hload : s.loadTask? next.tasks.length with
    | none => rfl
    | some t =>
        have hlt := lt_of_loadTask? hload
        exact absurd (hturn 0).length_le (Nat.not_le.mpr hlt)
  have hother := hturn next.tasks.length
  refine ⟨hother.runsSound hsound.runs, ?_,
    hsound.starts.of_turn hother (.inr (Nat.le_refl _)) fun t hload => ?_⟩
  · refine ((hsound.explained.beside fun t r hload => ?_).of_turn hother
      fun r herror => ?_).explained
    · exact absurd hload (by simp [hnone])
    · simpa [Session.record, hrecords] using herror
  · exact absurd hload (by simp [hnone])

theorem mem_pending_of_pendingQuery {query : Value} {id : QueryId}
    (hfound : s.pendingQuery query = .ok id) : id ∈ s.pending := by
  unfold pendingQuery at hfound
  split at hfound
  · rename_i found hfind
    obtain rfl := Except.ok.inj hfound
    exact List.mem_of_find?_eq_some hfind
  · exact absurd hfound (by simp)

theorem answer_eq_ok {query : Value} {given : BackendAnswer}
    (hanswer : s.answer query given = .ok next) :
    ∃ id ∈ s.pending,
      next = (s.setQuery id (.answered given)).later (.receive id) := by
  unfold answer at hanswer
  cases hname : query.asName with
  | error fault => simp [hname, bind, Except.bind] at hanswer
  | ok name =>
      cases hpending : s.pendingQuery name with
      | error fault => simp [hname, hpending, bind, Except.bind] at hanswer
      | ok id =>
          simp only [hname, hpending, bind, Except.bind, pure, Except.pure,
            Except.ok.injEq] at hanswer
          exact ⟨id, mem_pending_of_pendingQuery hpending, hanswer.symm⟩

theorem turn_of_move (hmove : s.Move next) (actor : TaskId) :
    s.step? = some next ∨ Turn actor s next ∧ next.records = s.records := by
  cases hmove with
  | step hstep => exact .inl hstep
  | order order hbegun =>
      right
      refine ⟨turn_addTask ?_, rfl⟩
      rintro t ⟨⟩
      exact ⟨rfl, hbegun⟩
  | orderAll filters window scope =>
      right
      refine ⟨turn_addTask ?_, rfl⟩
      rintro t ⟨⟩
  | @answer _ query given hanswer =>
      right
      obtain ⟨id, -, rfl⟩ := answer_eq_ok hanswer
      have hset : Turn actor s (s.setQuery id (.answered given)) :=
        turn_of_same rfl rfl rfl rfl rfl
      exact ⟨hset.trans (turn_later (by simp)), rfl⟩
  | @effect _ effect heffect =>
      right
      obtain ⟨registry, queries, ready, heq, _⟩ := applyEffect_eq heffect
      exact ⟨turn_applyEffect heffect, by rw [heq]⟩
  | reset => exact .inr ⟨turn_resetProgress, rfl⟩
  | configure => exact .inr ⟨turn_of_same rfl rfl rfl rfl rfl, rfl⟩

theorem Sound.of_move (hsound : s.Sound) (hmove : s.Move next) : next.Sound := by
  by_cases hstep : s.step? = some next
  · exact hsound.step hstep
  · have hturn := fun actor => (turn_of_move hmove actor).resolve_left hstep
    exact hsound.of_turn (fun actor => (hturn actor).1) (hturn 0).2

theorem Sound.of_leadsTo (hsound : s.Sound) (hleads : s.LeadsTo next) :
    next.Sound := by
  induction hleads with
  | refl => exact hsound
  | tail _ hmove ih => exact ih.of_move hmove

theorem Reachable.sound (hreachable : s.Reachable) : s.Sound := by
  obtain ⟨first, hnew, hleads⟩ := hreachable
  exact hnew.sound.of_leadsTo hleads

end Session

end RequestBreakdown
