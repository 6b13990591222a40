import RequestBreakdown.Proofs.Cancellation.Registry
import RequestBreakdown.Proofs.Load.StageEnds
import RequestBreakdown.Session.Run

/-!
# The turn of a task

In a session one task goes on at a time, and its turn leaves the loads of all
other tasks where they are: none goes on, though one may be granted the slot that
it waits for.  New tasks may be made, which have not begun.  The registry moves
on, so that what was superseded stays superseded.
-/

namespace RequestBreakdown

namespace LoadTaskState

def run? : LoadTaskState → Option RunningLoad
  | .queued run | .granted run | .querying run _ => some run
  | .created | .complete _ | .failed _ => none

/-- A task does not go on; at most it is granted the slot that it waits for. -/
inductive Idles : LoadTaskState → LoadTaskState → Prop where
  | same (state : LoadTaskState) : Idles state state
  | granted (run : RunningLoad) : Idles (.queued run) (.granted run)

theorem Idles.trans {a b c : LoadTaskState} (hfirst : a.Idles b)
    (hthen : b.Idles c) : a.Idles c := by
  cases hfirst with
  | same => exact hthen
  | granted run =>
      cases hthen with
      | same => exact .granted run

theorem Idles.run?_eq {a b : LoadTaskState} (hidles : a.Idles b) :
    b.run? = a.run? := by
  cases hidles with
  | same => rfl
  | granted run => rfl

theorem Idles.eq_created {b : LoadTaskState}
    (hidles : LoadTaskState.created.Idles b) : b = .created := by
  cases hidles with
  | same => rfl

theorem Idles.eq_complete {b : LoadTaskState} {record : RecordId}
    (hidles : (LoadTaskState.complete record).Idles b) : b = .complete record := by
  cases hidles with
  | same => rfl

end LoadTaskState

namespace Session

variable {s next : Session} {actor id : TaskId} {t : LoadTask}

/-! ## Loads -/

theorem loadTask?_eq_some :
    s.loadTask? id = some t ↔ s.tasks[id]? = some (.load t) := by
  unfold loadTask?
  split
  · rename_i u hfound
    simp [hfound]
  · rename_i hnone
    constructor
    · intro h
      exact absurd h (by simp)
    · intro h
      exact absurd h (hnone t)

theorem lt_of_loadTask? (hload : s.loadTask? id = some t) :
    id < s.tasks.length :=
  (List.getElem?_eq_some_iff.mp (loadTask?_eq_some.mp hload)).1

theorem loadTask?_congr (htasks : next.tasks = s.tasks) (id : TaskId) :
    next.loadTask? id = s.loadTask? id := by
  unfold loadTask?
  rw [htasks]

theorem loadTask?_setLoad (hlt : id < s.tasks.length) (state : LoadTaskState) :
    (s.setLoad id t state).loadTask? id = some { t with state } := by
  rw [loadTask?_eq_some]
  simp [setLoad, hlt]

theorem loadTask?_setLoad_of_ne {other : TaskId} (hne : other ≠ id)
    (state : LoadTaskState) :
    (s.setLoad id t state).loadTask? other = s.loadTask? other := by
  unfold loadTask? setLoad
  rw [List.getElem?_set_ne (Ne.symm hne)]

theorem loadTask?_setGroup {g : GroupTask} (hgroup : s.groupTask? id = some g)
    (state : GroupState) (other : TaskId) :
    (s.setGroup id g state).loadTask? other = s.loadTask? other := by
  by_cases heq : other = id
  · subst heq
    have hfound : s.tasks[other]? = some (.group g) := by
      unfold groupTask? at hgroup
      split at hgroup
      · rename_i h
        rw [← Option.some.inj hgroup]
        exact h
      · exact absurd hgroup (by simp)
    have hlt := (List.getElem?_eq_some_iff.mp hfound).1
    have hset : (s.setGroup other g state).tasks[other]? =
        some (.group { g with state }) := by
      simp [setGroup, hlt]
    simp only [loadTask?, hset, hfound]
  · unfold loadTask? setGroup
    rw [List.getElem?_set_ne (Ne.symm heq)]

theorem loadTask?_addTask_of_lt (task : Task) (hlt : id < s.tasks.length) :
    (s.addTask task).1.loadTask? id = s.loadTask? id := by
  unfold loadTask? addTask
  rw [List.getElem?_append_left hlt]

/-! ## Sound runs -/

/-- A load under way belongs to an activity that has begun, waits for a query,
and has a record that there is. -/
structure Admits (s : Session) (run : RunningLoad) : Prop where
  begun : s.registry.HasBegun run.activity
  waits : run.load.point ≠ .ended
  record_lt : run.record < s.records.length

/-- Every load under way is admitted, and those that are to begin have been given
activities that have begun. -/
structure RunsSound (s : Session) : Prop where
  wellFormed : s.registry.WellFormed
  shown : ∀ key r, s.shown.lookup key = some r → r < s.records.length
  ordered : ∀ id t a, s.loadTask? id = some t → t.order.activity = some a →
    s.registry.HasBegun a
  running : ∀ id t run, s.loadTask? id = some t → t.state.run? = some run →
    s.Admits run

/-- What a turn of a task comes to. -/
structure Turn (actor : TaskId) (s next : Session) : Prop where
  length_le : s.tasks.length ≤ next.tasks.length
  records_le : s.records.length ≤ next.records.length
  registry : s.registry.Evolves next.registry
  loads : ∀ id t, s.loadTask? id = some t → ∃ u, next.loadTask? id = some u ∧
    u.order = t.order ∧ (id ≠ actor → t.state.Idles u.state)
  fresh : ∀ id u, next.loadTask? id = some u → s.loadTask? id = none →
    s.tasks.length ≤ id ∧ (id ≠ actor → u.state = .created)
  starts : ∀ id : Nat, next.ready.count (.start id) ≤ s.ready.count (.start id) +
    if s.tasks.length ≤ id ∧ id < next.tasks.length then 1 else 0
  runsSound : s.RunsSound → next.RunsSound

theorem Turn.refl (actor : TaskId) (s : Session) : Turn actor s s :=
  ⟨Nat.le_refl _, Nat.le_refl _, .refl _, fun _ t h => ⟨t, h, rfl, fun _ => .same _⟩,
    fun _ _ hsome hnone => absurd hsome (by simp [hnone]),
    fun _ => Nat.le_add_right _ _, fun h => h⟩

theorem Turn.trans {last : Session} (hfirst : Turn actor s next)
    (hthen : Turn actor next last) : Turn actor s last := by
  constructor
  case length_le => exact Nat.le_trans hfirst.length_le hthen.length_le
  case records_le => exact Nat.le_trans hfirst.records_le hthen.records_le
  case registry => exact hfirst.registry.trans hthen.registry
  case loads =>
      intro id t hload
      obtain ⟨u, hu, horder, hidles⟩ := hfirst.loads id t hload
      obtain ⟨v, hv, horder', hidles'⟩ := hthen.loads id u hu
      exact ⟨v, hv, horder'.trans horder,
        fun hne => (hidles hne).trans (hidles' hne)⟩
  case fresh =>
      intro id u hsome hnone
      cases hmiddle : next.loadTask? id with
      | none =>
          obtain ⟨hle, hcreated⟩ := hthen.fresh id u hsome hmiddle
          exact ⟨Nat.le_trans hfirst.length_le hle, hcreated⟩
      | some v =>
          obtain ⟨hle, hcreated⟩ := hfirst.fresh id v hmiddle hnone
          refine ⟨hle, fun hne => ?_⟩
          obtain ⟨w, hw, _, hidles⟩ := hthen.loads id v hmiddle
          obtain rfl : u = w := Option.some.inj (hsome.symm.trans hw)
          exact (hcreated hne ▸ hidles hne).eq_created
  case starts =>
      intro id
      have hle := hfirst.starts id
      have hle' := hthen.starts id
      have hlength := hfirst.length_le
      have hlength' := hthen.length_le
      split at hle <;> split at hle' <;> split <;> omega
  case runsSound => exact fun h => hthen.runsSound (hfirst.runsSound h)

/-! ## Single changes -/

theorem Admits.mono {run : RunningLoad} (hadmits : s.Admits run)
    (hevolves : s.registry.Evolves next.registry)
    (hle : s.records.length ≤ next.records.length) : next.Admits run :=
  ⟨hevolves.begun _ hadmits.begun, hadmits.waits,
    Nat.lt_of_lt_of_le hadmits.record_lt hle⟩

theorem Admits.of_turn {run : RunningLoad} (hadmits : s.Admits run)
    (hturn : Turn actor s next) : next.Admits run :=
  hadmits.mono hturn.registry hturn.records_le

structure KeepsRecords (s next : Session) : Prop where
  length_le : s.records.length ≤ next.records.length
  shown : (∀ key r, s.shown.lookup key = some r → r < s.records.length) →
    ∀ key r, next.shown.lookup key = some r → r < next.records.length

theorem keepsRecords_of_eq (hlength : next.records.length = s.records.length)
    (hshown : next.shown = s.shown) : s.KeepsRecords next := by
  constructor
  · omega
  · rw [hlength, hshown]
    exact id

theorem RunsSound.of_evolves (hsound : s.RunsSound)
    (hloads : ∀ id, next.loadTask? id = s.loadTask? id)
    (hevolves : s.registry.Evolves next.registry)
    (hkeeps : s.KeepsRecords next) : next.RunsSound := by
  constructor
  · exact hevolves.wellFormed hsound.wellFormed
  · exact hkeeps.shown hsound.shown
  · intro id t a hload ha
    rw [hloads] at hload
    exact hevolves.begun a (hsound.ordered id t a hload ha)
  · intro id t run hload hrun
    rw [hloads] at hload
    exact (hsound.running id t run hload hrun).mono hevolves hkeeps.length_le

theorem RunsSound.of_ready (hsound : s.RunsSound) (ready : List TaskEvent) :
    ({ s with ready } : Session).RunsSound :=
  hsound.of_evolves (fun _ => rfl) (.refl _) (keepsRecords_of_eq rfl rfl)

theorem turn_of_loads_eq (hlength : next.tasks.length = s.tasks.length)
    (hloads : ∀ id, next.loadTask? id = s.loadTask? id)
    (hready : ∀ id, next.ready.count (.start id) = s.ready.count (.start id))
    (hevolves : s.registry.Evolves next.registry)
    (hkeeps : s.KeepsRecords next) : Turn actor s next := by
  constructor
  case length_le => omega
  case records_le => exact hkeeps.length_le
  case registry => exact hevolves
  case loads =>
      intro id t hload
      exact ⟨t, (hloads id).trans hload, rfl, fun _ => .same _⟩
  case fresh =>
      intro id u hsome hnone
      rw [hloads, hnone] at hsome
      exact absurd hsome (by simp)
  case starts =>
      intro id
      rw [hready]
      exact Nat.le_add_right _ _
  case runsSound =>
      exact fun hsound => hsound.of_evolves hloads hevolves hkeeps

theorem turn_of_eq (htasks : next.tasks = s.tasks)
    (hready : ∀ id, next.ready.count (.start id) = s.ready.count (.start id))
    (hevolves : s.registry.Evolves next.registry)
    (hkeeps : s.KeepsRecords next) : Turn actor s next :=
  turn_of_loads_eq (congrArg List.length htasks) (loadTask?_congr htasks) hready
    hevolves hkeeps

theorem turn_of_same (htasks : next.tasks = s.tasks)
    (hready : next.ready = s.ready) (hregistry : next.registry = s.registry)
    (hlength : next.records.length = s.records.length)
    (hshown : next.shown = s.shown) : Turn actor s next :=
  turn_of_eq htasks (fun id => by rw [hready]) (hregistry ▸ .refl _)
    (keepsRecords_of_eq hlength hshown)

theorem turn_later {event : TaskEvent} (hevent : ∀ id, event ≠ .start id) :
    Turn actor s (s.later event) := by
  refine turn_of_eq rfl (fun id => ?_) (.refl _) (keepsRecords_of_eq rfl rfl)
  simp [later, hevent id]

theorem turn_next {event : TaskEvent} (hevent : ∀ id, event ≠ .start id) :
    Turn actor s (s.next event) := by
  refine turn_of_eq rfl (fun id => ?_) (.refl _) (keepsRecords_of_eq rfl rfl)
  simp [Session.next, hevent id]

theorem turn_setGroup {g : GroupTask} (hgroup : s.groupTask? id = some g)
    (state : GroupState) : Turn actor s (s.setGroup id g state) :=
  turn_of_loads_eq (by simp [setGroup]) (loadTask?_setGroup hgroup state)
    (fun _ => rfl) (.refl _) (keepsRecords_of_eq rfl rfl)

theorem RunsSound.setLoad {u : LoadTask} {state : LoadTaskState}
    (hsound : s.RunsSound) (hload : s.loadTask? id = some u)
    (horder : t.order = u.order)
    (hrun : ∀ run, state.run? = some run → s.Admits run) :
    (s.setLoad id t state).RunsSound := by
  have hset := loadTask?_setLoad (t := t) (lt_of_loadTask? hload) state
  constructor
  · exact hsound.wellFormed
  · exact hsound.shown
  · intro other v a hother ha
    by_cases heq : other = id
    · subst heq
      obtain rfl := Option.some.inj (hset.symm.trans hother)
      exact hsound.ordered other u a hload (horder ▸ ha)
    · rw [loadTask?_setLoad_of_ne heq] at hother
      exact hsound.ordered other v a hother ha
  · intro other v run hother hv
    by_cases heq : other = id
    · subst heq
      obtain rfl := Option.some.inj (hset.symm.trans hother)
      exact (hrun run hv).mono (.refl _) (Nat.le_refl _)
    · rw [loadTask?_setLoad_of_ne heq] at hother
      exact (hsound.running other v run hother hv).mono (.refl _) (Nat.le_refl _)

theorem turn_setLoad {u : LoadTask} {state : LoadTaskState}
    (hload : s.loadTask? id = some u) (horder : t.order = u.order)
    (hidles : id ≠ actor → u.state.Idles state)
    (hrun : s.RunsSound → ∀ run, state.run? = some run → s.Admits run) :
    Turn actor s (s.setLoad id t state) := by
  have hset := loadTask?_setLoad (t := t) (lt_of_loadTask? hload) state
  constructor
  case length_le => simp [Session.setLoad]
  case records_le => exact Nat.le_refl _
  case registry => exact .refl _
  case loads =>
      intro other v hother
      by_cases heq : other = id
      · subst heq
        rw [hload, Option.some.injEq] at hother
        subst hother
        exact ⟨_, hset, horder, hidles⟩
      · exact ⟨v, (loadTask?_setLoad_of_ne heq state).trans hother, rfl,
          fun _ => .same _⟩
  case fresh =>
      intro other v hsome hnone
      by_cases heq : other = id
      · subst heq
        rw [hload] at hnone
        exact absurd hnone (by simp)
      · rw [loadTask?_setLoad_of_ne heq, hnone] at hsome
        exact absurd hsome (by simp)
  case starts => exact fun _ => Nat.le_add_right _ _
  case runsSound =>
      exact fun hsound => hsound.setLoad hload horder (hrun hsound)

theorem length_addTask (s : Session) (task : Task) :
    (s.addTask task).1.tasks.length = s.tasks.length + 1 := by
  simp [addTask]

theorem loadTask?_addTask {task : Task} {u : LoadTask}
    (hu : (s.addTask task).1.loadTask? id = some u) :
    s.loadTask? id = some u ∨ id = s.tasks.length ∧ task = .load u := by
  have hlt := lt_of_loadTask? hu
  rw [length_addTask] at hlt
  rcases Nat.lt_or_eq_of_le (Nat.le_of_lt_succ hlt) with hold | heq
  · rw [loadTask?_addTask_of_lt task hold] at hu
    exact .inl hu
  · subst heq
    rw [loadTask?_eq_some] at hu
    simp only [addTask, List.getElem?_concat_length, Option.some.injEq] at hu
    exact .inr ⟨rfl, hu⟩

/-- A task that is added has not begun, and is ordered for an activity that
has. -/
def MayAdd (s : Session) (task : Task) : Prop :=
  ∀ t, task = .load t → t.state = .created ∧
    ∀ a, t.order.activity = some a → s.registry.HasBegun a

theorem RunsSound.addTask {task : Task} (hsound : s.RunsSound)
    (htask : s.MayAdd task) : (s.addTask task).1.RunsSound := by
  constructor
  · exact hsound.wellFormed
  · exact hsound.shown
  · intro id u a hu ha
    rcases loadTask?_addTask hu with hold | ⟨_, hload⟩
    · exact hsound.ordered id u a hold ha
    · exact (htask u hload).2 a ha
  · intro id u run hu hrun
    rcases loadTask?_addTask hu with hold | ⟨_, hload⟩
    · exact (hsound.running id u run hold hrun).mono (.refl _) (Nat.le_refl _)
    · rw [(htask u hload).1] at hrun
      exact absurd hrun (by simp [LoadTaskState.run?])

theorem turn_addTask {task : Task} (htask : s.MayAdd task) :
    Turn actor s (s.addTask task).1 := by
  constructor
  case length_le =>
      rw [length_addTask]
      omega
  case records_le => exact Nat.le_refl _
  case registry => exact .refl _
  case loads =>
      intro id t hload
      have hlt := lt_of_loadTask? hload
      exact ⟨t, (loadTask?_addTask_of_lt task hlt).trans hload, rfl,
        fun _ => .same _⟩
  case fresh =>
      intro id u hsome hnone
      rcases loadTask?_addTask hsome with hold | ⟨rfl, hload⟩
      · rw [hnone] at hold
        exact absurd hold (by simp)
      · exact ⟨Nat.le_refl _, fun _ => (htask u hload).1⟩
  case starts =>
      intro id
      rw [length_addTask]
      by_cases heq : s.tasks.length = id
      · subst heq
        simp [Session.addTask]
      · simp [Session.addTask, heq]
  case runsSound => exact fun hsound => hsound.addTask htask

end Session

end RequestBreakdown
