import RequestBreakdown.Proofs.Session.Attendance
import RequestBreakdown.Proofs.Session.Reachable

/-!
# Loads share the limiter

The loads of a session take turns, and each of them asks the limiter for a slot
before it sends a query, and gives the slot back before it goes on with what the
query came to.  So a load that waits for a slot holds none, and whenever one waits
all slots are with other loads, whose queries are under way or about to be sent.
-/

namespace RequestBreakdown

namespace Session

variable {s next : Session} {n : Nat} {id : TaskId} {t : LoadTask} {run : RunningLoad}
  {outcome : QueryOutcome} {event : TaskEvent}

def states (s : Session) : LoadStates := fun id => (s.loadTask? id).map (·.state)

theorem states_eq_some {state : LoadTaskState} :
    s.states id = some state ↔ ∃ t, s.loadTask? id = some t ∧ t.state = state :=
  Option.map_eq_some_iff

theorem states_congr (htasks : next.tasks = s.tasks) : next.states = s.states := by
  funext id
  rw [states, loadTask?_congr htasks, states]

theorem states_setLoad (hlt : id < s.tasks.length) (state : LoadTaskState) :
    (s.setLoad id t state).states = Function.update s.states id (some state) := by
  funext other
  by_cases heq : other = id
  · subst heq
    simp [states, loadTask?_setLoad hlt]
  · simp [states, loadTask?_setLoad_of_ne heq, heq]

theorem states_setGroup {g : GroupTask} (hgroup : s.groupTask? id = some g)
    (state : GroupState) : (s.setGroup id g state).states = s.states := by
  funext other
  rw [states, loadTask?_setGroup hgroup, states]

theorem states_length (s : Session) : s.states s.tasks.length = none := by
  cases hload : s.loadTask? s.tasks.length with
  | none => simp [states, hload]
  | some t => exact absurd (lt_of_loadTask? hload) (Nat.lt_irrefl _)

theorem states_addTask (s : Session) (task : Task) :
    (s.addTask task).1.states = Function.update s.states s.tasks.length (match task with
      | .load t => some t.state
      | .group _ => none) := by
  funext other
  by_cases heq : other = s.tasks.length
  · subst heq
    have htask : (s.addTask task).1.tasks[s.tasks.length]? = some task := by
      simp [addTask]
    cases task <;> simp [states, loadTask?, htask]
  · have hsame : (s.addTask task).1.tasks[other]? = s.tasks[other]? := by
      simp only [addTask, List.getElem?_append]
      split
      · rfl
      · rename_i hle
        have hlast : other - s.tasks.length ≠ 0 := by
          intro hzero
          exact heq (Nat.le_antisymm (Nat.sub_eq_zero_iff_le.mp hzero)
            (Nat.not_lt.mp hle))
        simp [hlast, Nat.not_lt.mp hle]
    simp only [states, loadTask?, hsame, Function.update_of_ne heq]

/-! ## One load aside -/

/-- The loads have the slots that are in use, and nothing is forgotten. -/
structure Orderly (n : Nat) (s : Session) : Prop where
  balanced : s.limiter.Balanced n s.states
  attended : s.Attended s.states none

/-- The same without one load. -/
structure OrderlyBeside (n : Nat) (id : TaskId) (s : Session) : Prop where
  balanced : s.limiter.Balanced n (Function.update s.states id none)
  attended : s.Attended (Function.update s.states id none) none
  lt : id < s.tasks.length

theorem Orderly.congr (horderly : s.Orderly n) (hattended : next.Attended s.states none)
    (hlimiter : next.limiter = s.limiter) (hstates : next.states = s.states) :
    next.Orderly n :=
  ⟨hlimiter ▸ hstates ▸ horderly.balanced, hstates ▸ hattended⟩

theorem OrderlyBeside.congr (hbeside : s.OrderlyBeside n id)
    (hattended : next.Attended (Function.update s.states id none) none)
    (hlimiter : next.limiter = s.limiter) (htasks : next.tasks = s.tasks) :
    next.OrderlyBeside n id := by
  have hstates := states_congr htasks
  exact ⟨hlimiter ▸ hstates ▸ hbeside.balanced, hstates ▸ hattended, htasks ▸ hbeside.lt⟩

/-- The load that was aside is over. -/
theorem OrderlyBeside.setLoad (hbeside : s.OrderlyBeside n id) {state : LoadTaskState}
    (hrun : state.run? = none) (hcreated : state ≠ .created) :
    (s.setLoad id t state).Orderly n := by
  have hstates : (s.setLoad id t state).states =
      Function.update (Function.update s.states id none) id (some state) := by
    rw [states_setLoad hbeside.lt, Function.update_idem]
  constructor
  · rw [hstates]
    refine hbeside.balanced.update id (some state) ?_ ?_ <;>
      cases state <;> simp_all [LoadTaskState.run?, LoadTaskState.waits, LoadTaskState.holds]
  · rw [hstates]
    refine (hbeside.attended.insert id state (by simp) (fun heq => absurd heq hcreated)
      ?_ ?_).congr rfl rfl
    · rintro run rfl
      exact absurd hrun (by simp [LoadTaskState.run?])
    · rintro run query rfl
      exact absurd hrun (by simp [LoadTaskState.run?])

theorem OrderlyBeside.endLoad (hbeside : s.OrderlyBeside n id)
    (outcome : Except Fault RecordId) : (s.endLoad id t outcome).Orderly n := by
  have hdone : ∀ state : LoadTaskState, state.run? = none → state ≠ .created →
      ∀ parent fault, ((s.setLoad id t state).later (.childOver parent fault)).Orderly n := by
    intro state hrun hcreated parent fault
    have hset := hbeside.setLoad (t := t) hrun hcreated
    exact hset.congr (hset.attended.later _ (by simp)) rfl rfl
  unfold Session.endLoad
  cases outcome with
  | ok record =>
      dsimp only
      split
      · exact hdone _ rfl (by simp) _ _
      · exact hbeside.setLoad rfl (by simp)
  | error fault =>
      dsimp only
      split
      · exact hdone _ rfl (by simp) _ _
      · exact hbeside.setLoad rfl (by simp)

theorem OrderlyBeside.requestSlot (hbeside : s.OrderlyBeside n id) (run : RunningLoad) :
    (s.requestSlot id t run).Orderly n := by
  have hbalanced := hbeside.balanced.request id run (by simp) (by simp)
  have hlt : id < ({ s with limiter := (s.limiter.request id).1 } : Session).tasks.length :=
    hbeside.lt
  have hstates : ∀ state : LoadTaskState,
      (({ s with limiter := (s.limiter.request id).1 } : Session).setLoad id t
        state).states =
        Function.update (Function.update s.states id none) id (some state) := by
    intro state
    rw [states_setLoad hlt, Function.update_idem]
    rfl
  unfold Session.requestSlot
  dsimp only
  split
  · rename_i hgranted
    rw [if_pos hgranted] at hbalanced
    have hattended := (hbeside.attended.next (.enter id) (by simp)).insert
      id (.granted run) (by simp) (by simp)
      (fun _ _ => List.mem_cons_self) (by simp)
    rw [← hstates] at hbalanced hattended
    exact ⟨hbalanced, hattended.congr rfl rfl⟩
  · rename_i hqueued
    rw [if_neg hqueued] at hbalanced
    have hattended := hbeside.attended.insert id (.queued run)
      (by simp) (by simp) (by simp) (by simp)
    rw [← hstates] at hbalanced hattended
    exact ⟨hbalanced, hattended.congr rfl rfl⟩

theorem OrderlyBeside.follow (hbeside : s.OrderlyBeside n id) (activity : Activity)
    (record : RecordId) (step : LoadStep) :
    (s.follow id t activity record step).Orderly n := by
  have hshown : (s.withStep record step).OrderlyBeside n id :=
    hbeside.congr (hbeside.attended.congr rfl rfl) rfl rfl
  cases hquery : step.query with
  | none =>
      rw [follow_of_none hquery]
      exact hshown.endLoad _
  | some query =>
      rw [follow_of_some hquery]
      exact hshown.requestSlot _

/-! ## Slots given back -/

/-- A load that holds a slot, and that has been put aside otherwise, gives it back. -/
theorem Orderly.releaseSlot (hbalanced : s.limiter.Balanced n s.states)
    (hattended : s.Attended (Function.update s.states id none) none)
    (hholds : (s.states id).any (·.holds) = true) :
    s.releaseSlot.OrderlyBeside n id := by
  obtain ⟨state, hstate, hstill⟩ := (Option.any_eq_true _ _).mp hholds
  obtain ⟨u, hload, -⟩ := states_eq_some.mp hstate
  have hlt := lt_of_loadTask? hload
  have hwaits : (s.states id).any (·.waits) = false := by
    rw [hstate]
    exact LoadTaskState.waits_of_holds hstill
  unfold Session.releaseSlot
  dsimp only
  rcases hbalanced.release hholds hwaits with ⟨hgranted, hrest⟩ |
    ⟨first, run, hgranted, hne, hfirst, hrest⟩
  · rw [hgranted]
    exact ⟨hrest, hattended.congr rfl rfl, hlt⟩
  · obtain ⟨v, hv, hqueued⟩ := states_eq_some.mp hfirst
    have hfound : ({ s with limiter := s.limiter.release.1 } : Session).loadTask? first =
        some v := hv
    have hstates : Function.update (({ s with limiter := s.limiter.release.1 } :
        Session).setLoad first v (.granted run)).states id none =
          Function.update (Function.update s.states id none) first
            (some (.granted run)) := by
      rw [states_setLoad (lt_of_loadTask? hfound), Function.update_comm hne]
      rfl
    rw [hgranted, List.foldl_cons, List.foldl_nil, hfound]
    simp only [hqueued]
    have hremoved := hattended.remove first (by simp [hne, hfirst])
    have hinserted := (hremoved.later (.enter first) (by simp)).insert
      first (.granted run) (by simp) (by simp) (by simp [Session.later])
      (by simp)
    rw [Function.update_idem, ← hstates] at hinserted
    rw [← hstates] at hrest
    exact ⟨hrest, hinserted.congr rfl rfl, by simpa [Session.setLoad, Session.later] using hlt⟩

theorem Orderly.leave (hbalanced : s.limiter.Balanced n s.states)
    (hattended : s.Attended (Function.update s.states id none) none)
    (hholds : (s.states id).any (·.holds) = true) :
    (s.leave id t run outcome).Orderly n :=
  (Orderly.releaseSlot hbalanced hattended hholds).follow _ _ _

/-! ## The registry, and outcomes -/

variable {states : LoadStates} {beside : Option QueryId}

theorem Attended.applyEffect (hattended : s.Attended states beside) {effect : Effect}
    (heffect : s.applyEffect effect = .ok next) : next.Attended states beside := by
  obtain ⟨registry, -, rfl⟩ := applyEffect_eq_ok heffect
  exact hattended.withRegistry registry

theorem Attended.activityFor (hattended : s.Attended states beside) {order : LoadOrder}
    {a : Activity} (hactivity : s.activityFor order = .ok (next, a)) :
    next.Attended states beside := by
  rcases activityFor_eq_ok hactivity with ⟨rfl, -⟩ | hstart
  · exact hattended
  · obtain ⟨registry, -, rfl⟩ := startActivity_eq_ok hstart
    exact hattended.withRegistry registry

theorem Attended.outcomeOf (hattended : s.Attended states beside) (run : RunningLoad)
    (sent : SentQuery) : (s.outcomeOf run sent).1.Attended states beside := by
  unfold Session.outcomeOf
  split
  · rename_i answer _
    unfold Session.take
    split
    · exact hattended
    · rename_i clock _
      have hclock : ({ s with clock } : Session).Attended states beside :=
        hattended.congr rfl rfl
      cases answer.effect with
      | none =>
          simp only [Option.elim_none]
          split <;> exact hclock
      | some effect =>
          simp only [Option.elim_some]
          cases happly : ({ s with clock } : Session).applyEffect effect with
          | error fault => exact hclock
          | ok next =>
              have hnext := hclock.applyEffect happly
              dsimp only
              split <;> exact hnext
  · exact hattended

theorem Orderly.withRegistry (horderly : s.Orderly n)
    (registry : ActivityRegistry QueryId) : (s.withRegistry registry).Orderly n := by
  have hattended := horderly.attended.withRegistry registry
  obtain ⟨queries, ready, heq, -, -⟩ := s.withRegistry_eq registry
  rw [heq] at hattended ⊢
  exact horderly.congr hattended rfl rfl

/-! ## Loads that begin -/

theorem OrderlyBeside.beginLoad (hbeside : s.OrderlyBeside n id) (activity : Activity)
    (record : RecordId) : (s.beginLoad id t activity record).Orderly n := by
  have hset : (s.setRecord record (s.record record).begin).OrderlyBeside n id :=
    hbeside.congr (hbeside.attended.congr rfl rfl) rfl rfl
  unfold Session.beginLoad
  dsimp only
  split
  · exact hset.endLoad _
  · exact hset.follow _ _ _

theorem OrderlyBeside.startLoad (hbeside : s.OrderlyBeside n id) :
    (s.startLoad id t).Orderly n := by
  unfold Session.startLoad
  split
  · exact hbeside.endLoad _
  · rename_i s₁ activity hactivity
    have hattended := hbeside.attended.activityFor hactivity
    obtain ⟨registry, queries, ready, rfl⟩ := activityFor_eq hactivity
    have hbeside₁ := hbeside.congr hattended rfl rfl
    split
    · exact hbeside₁.endLoad _
    · rename_i s₂ record hrecord
      rcases recordFor_eq_ok hrecord with rfl | ⟨key, rfl⟩
      · exact hbeside₁.beginLoad _ _
      · refine OrderlyBeside.beginLoad ?_ activity record
        exact hbeside₁.congr (hattended.congr rfl rfl) rfl rfl

/-! ## Queries -/

/-- A load with a slot sends its query, and keeps the slot. -/
theorem Orderly.send (hbalanced : s.limiter.Balanced n s.states)
    (hattended : s.Attended (Function.update s.states id none) none)
    (hstate : s.states id = some (.granted run)) : (s.send id t run).Orderly n := by
  obtain ⟨u, hload, -⟩ := states_eq_some.mp hstate
  let new : SentQuery := { task := id, text := run.query, sentAt := s.clock }
  let sent : Session := { s with queries := s.queries ++ [new] }
  let asked := sent.setLoad id t (.querying run s.queries.length)
  have hstates : asked.states =
      Function.update s.states id (some (.querying run s.queries.length)) :=
    states_setLoad (s := sent) (lt_of_loadTask? hload) _
  have hasked : asked.Orderly n := by
    have hask := hattended.ask id run new (by simp) rfl rfl
    rw [Function.update_idem, ← hstates] at hask
    refine ⟨?_, hask.congr rfl rfl⟩
    rw [hstates]
    exact hbalanced.update _ _ (by rw [hstate]; rfl) (by rw [hstate]; rfl)
  unfold Session.send
  dsimp only
  split
  · rename_i answer script _
    have hfound : asked.queries[s.queries.length]? = some new := by
      simp [asked, sent, Session.setLoad]
    have hsettled := hasked.attended.settle hfound rfl (.answered answer) rfl
      (.receive s.queries.length :: asked.ready)
      (fun _ hmem => List.mem_cons_of_mem _ hmem) (fun other => by
        by_cases heq : s.queries.length = other <;> simp [heq])
    exact hasked.congr (hsettled.congr rfl rfl) rfl rfl
  · split
    · exact hasked.withRegistry _
    · exact hasked

theorem Orderly.enter (hbalanced : s.limiter.Balanced n s.states)
    (hattended : s.Attended (Function.update s.states id none) none)
    (hstate : s.states id = some (.granted run)) : (s.enter id t run).Orderly n := by
  unfold Session.enter
  split
  · exact Orderly.leave hbalanced hattended (by rw [hstate]; rfl)
  · exact Orderly.send hbalanced hattended hstate

theorem receive_of_querying {query asked : QueryId} {sent : SentQuery}
    (hsent : s.queries[query]? = some sent) (hload : s.loadTask? sent.task = some t)
    (hquerying : t.state = .querying run asked) :
    s.receive query = ((s.outcomeOf run sent).1.setQuery query .ended).leave sent.task t run
      (s.outcomeOf run sent).2 := by
  simp [Session.receive, hsent, hload, hquerying]

theorem Orderly.receive {query : QueryId} {rest : List TaskEvent} (horderly : s.Orderly n)
    (hready : s.ready = .receive query :: rest) :
    (({ s with ready := rest } : Session).receive query).Orderly n := by
  obtain ⟨sent, run, hsent, hstate, hattended⟩ := horderly.attended.receive hready
  obtain ⟨t, hload, hquerying⟩ := states_eq_some.mp hstate
  have hended := (hattended.outcomeOf run sent).endQuery
  obtain ⟨clock, registry, queries, ready, heq, -⟩ :=
    ({ s with ready := rest } : Session).outcomeOf_eq run sent
  rw [receive_of_querying (s := { s with ready := rest }) hsent hload hquerying]
  have hstates : ((({ s with ready := rest } : Session).outcomeOf run sent).1.setQuery
      query .ended).states = s.states := by
    rw [heq]
    rfl
  have hlimiter : ((({ s with ready := rest } : Session).outcomeOf run sent).1.setQuery
      query .ended).limiter = s.limiter := by
    rw [heq]
    rfl
  refine Orderly.leave ?_ (hstates ▸ hended) ?_
  · rw [hlimiter, hstates]
    exact horderly.balanced
  · rw [hstates, hstate]
    rfl

/-! ## Groups -/

theorem Orderly.setGroup (horderly : s.Orderly n) {g : GroupTask}
    (hgroup : s.groupTask? id = some g) (state : GroupState) :
    (s.setGroup id g state).Orderly n :=
  horderly.congr (horderly.attended.congr rfl rfl) rfl (states_setGroup hgroup state)

theorem Orderly.later (horderly : s.Orderly n)
    (hevent : ∀ query, event ≠ .receive query) : (s.later event).Orderly n :=
  horderly.congr (horderly.attended.later event hevent) rfl rfl

theorem Orderly.addTask (horderly : s.Orderly n) {task : Task}
    (hcreated : ∀ t, task = .load t → t.state = .created) :
    (s.addTask task).1.Orderly n := by
  have hattended := horderly.attended.later (.start s.tasks.length) (by simp)
  have hstates := s.states_addTask task
  cases task with
  | load t =>
      have hstate := hcreated t rfl
      have hinserted := hattended.insert s.tasks.length .created
        s.states_length (by simp [Session.later]) (by simp) (by simp)
      dsimp only at hstates
      rw [hstate] at hstates
      rw [← hstates] at hinserted
      refine ⟨?_, hinserted.congr rfl rfl⟩
      rw [hstates]
      exact horderly.balanced.update _ _ (by rw [states_length]; rfl)
        (by rw [states_length]; rfl)
  | group g =>
      have hsame : (s.addTask (.group g)).1.states = s.states :=
        hstates.trans (Function.update_eq_self_iff.mpr s.states_length.symm)
      exact horderly.congr (hattended.congr rfl rfl) rfl hsame

theorem Orderly.beginGroup (horderly : s.Orderly n) {g : GroupTask} {activity : Activity}
    (hgroup : s.groupTask? id = some g) : (s.beginGroup id g activity).Orderly n := by
  have hreset : s.resetProgress.Orderly n :=
    horderly.congr (horderly.attended.congr rfl rfl) rfl rfl
  have hgroup' : s.resetProgress.groupTask? id = some g := hgroup
  have hfold : ∀ (breakdowns : List Breakdown) (s : Session), s.Orderly n →
      (breakdowns.foldl (fun s breakdown =>
        (s.addTask (.load { order := {
          breakdown, filters := g.filters, window := g.window, scope := g.scope
          activity := some activity, parent := some id } })).1) s).Orderly n := by
    intro breakdowns
    induction breakdowns with
    | nil => exact fun s hs => hs
    | cons breakdown rest ih =>
        intro s hs
        refine ih _ (hs.addTask ?_)
        rintro t ⟨⟩
        rfl
  unfold Session.beginGroup
  dsimp only
  split
  · exact hreset.setGroup hgroup' _
  · exact hfold _ _ (hreset.setGroup hgroup' _)

theorem Orderly.startGroup (horderly : s.Orderly n) {g : GroupTask}
    (hgroup : s.groupTask? id = some g) : (s.startGroup id g).Orderly n := by
  unfold Session.startGroup
  split
  · rename_i s₁ activity hactivity
    obtain ⟨registry, -, rfl⟩ := startActivity_eq_ok hactivity
    refine (horderly.withRegistry registry).beginGroup ?_
    obtain ⟨queries, ready, heq, -, -⟩ := s.withRegistry_eq registry
    rw [heq]
    exact hgroup
  · exact horderly.setGroup hgroup _

theorem Orderly.childOver (horderly : s.Orderly n) {g : GroupTask} {fault : Option Fault}
    (hgroup : s.groupTask? id = some g) : (s.childOver id g fault).Orderly n := by
  unfold Session.childOver
  split
  · split
    · exact (horderly.setGroup hgroup _).later (by simp)
    · exact horderly.setGroup hgroup _
  · exact horderly

theorem Orderly.gathered (horderly : s.Orderly n) {g : GroupTask}
    (hgroup : s.groupTask? id = some g) : (s.gathered id g).Orderly n := by
  unfold Session.gathered
  split
  · exact horderly.setGroup hgroup _
  · exact horderly.setGroup hgroup _
  · exact horderly

/-! ## Events -/

variable {rest : List TaskEvent}

/-- An event is taken that no load needs to go on. -/
theorem Orderly.take (horderly : s.Orderly n) (hready : s.ready = event :: rest)
    (hevent : ∀ query, event ≠ .receive query)
    (hcreated : ∀ id, s.states id = some .created → event ≠ .start id)
    (hgranted : ∀ id run, s.states id = some (.granted run) → event ≠ .enter id) :
    ({ s with ready := rest } : Session).Orderly n :=
  horderly.congr (horderly.attended.take hready hevent hcreated hgranted) rfl rfl

theorem Orderly.start (horderly : s.Orderly n) (hready : s.ready = .start id :: rest)
    (hcreated : ∀ t, s.loadTask? id = some t → t.state = .created) :
    (({ s with ready := rest } : Session).handle (.start id)).Orderly n := by
  have hother : s.loadTask? id = none → ({ s with ready := rest } : Session).Orderly n := by
    intro hnone
    refine horderly.take hready (by simp) ?_ (by simp)
    rintro other hstate ⟨⟩
    simp [states, hnone] at hstate
  simp only [handle]
  split
  · rename_i t htask
    have hload : s.loadTask? id = some t := loadTask?_eq_some.mpr htask
    have hstate : s.states id = some .created :=
      states_eq_some.mpr ⟨t, hload, hcreated t hload⟩
    have hbalanced := horderly.balanced.update id none
      (by rw [hstate]; rfl) (by rw [hstate]; rfl)
    have hremoved := horderly.attended.remove id (by simp [hstate])
    have htaken := hremoved.take hready (by simp)
      (fun other hother heq => by
        obtain rfl : id = other := by simpa using heq
        simp at hother)
      (by simp)
    have hbeside : ({ s with ready := rest } : Session).OrderlyBeside n id :=
      ⟨hbalanced, htaken, lt_of_loadTask? hload⟩
    exact hbeside.startLoad
  · rename_i g htask
    have htask' : s.tasks[id]? = some (.group g) := htask
    exact (hother (by simp [loadTask?, htask'])).startGroup (by simp [groupTask?, htask'])
  · rename_i hnone
    have hnone' : s.tasks[id]? = none := hnone
    exact hother (by simp [loadTask?, hnone'])

theorem Orderly.enterTask (horderly : s.Orderly n) (hready : s.ready = .enter id :: rest) :
    (({ s with ready := rest } : Session).handle (.enter id)).Orderly n := by
  have hother : (∀ run, s.states id ≠ some (.granted run)) →
      ({ s with ready := rest } : Session).Orderly n := by
    intro hnot
    refine horderly.take hready (by simp) (by simp) ?_
    rintro other run hstate ⟨⟩
    exact hnot run hstate
  simp only [handle]
  split
  · rename_i t hfound
    have hload : s.loadTask? id = some t := hfound
    split
    · rename_i run hgranted
      have hstate : s.states id = some (.granted run) :=
        states_eq_some.mpr ⟨t, hload, hgranted⟩
      have hremoved := horderly.attended.remove id (by simp [hstate])
      have htaken := hremoved.take hready (by simp) (by simp)
        (fun other run hother heq => by
          obtain rfl : id = other := by simpa using heq
          simp at hother)
      exact Orderly.enter (s := { s with ready := rest }) horderly.balanced htaken hstate
    · rename_i hnot
      refine hother fun run hstate => ?_
      obtain ⟨u, hu, hgranted⟩ := states_eq_some.mp hstate
      obtain rfl := Option.some.inj (hload.symm.trans hu)
      exact hnot run hgranted
  · rename_i hnone
    refine hother fun run hstate => ?_
    obtain ⟨u, hu, -⟩ := states_eq_some.mp hstate
    exact absurd (hnone.symm.trans hu) (by simp)

theorem Orderly.step (horderly : s.Orderly n) (hsound : s.Sound)
    (hstep : s.step? = some next) : next.Orderly n := by
  obtain ⟨event, rest, hready, rfl⟩ := step?_eq_some hstep
  cases event with
  | start id =>
      have hcount : 0 < s.ready.count (.start id) := by simp [hready]
      exact horderly.start hready ((hsound.starts id).2 hcount).2
  | enter id => exact horderly.enterTask hready
  | receive query => exact horderly.receive hready
  | childOver parent fault =>
      have htaken := horderly.take hready (by simp) (by simp) (by simp)
      simp only [handle]
      split
      · rename_i g hgroup
        exact htaken.childOver hgroup
      · exact htaken
  | gathered id =>
      have htaken := horderly.take hready (by simp) (by simp) (by simp)
      simp only [handle]
      split
      · rename_i g hgroup
        exact htaken.gathered hgroup
      · exact htaken

/-! ## Moves -/

theorem mem_pending {query : QueryId} :
    query ∈ s.pending ↔ ∃ sent, s.queries[query]? = some sent ∧ sent.state = .waiting := by
  simp only [pending, List.mem_filter, List.mem_range, Option.any_eq_true, beq_iff_eq]
  constructor
  · exact And.right
  · rintro ⟨sent, hsent, hwaiting⟩
    exact ⟨(List.getElem?_eq_some_iff.mp hsent).1, sent, hsent, hwaiting⟩

theorem Orderly.answer (horderly : s.Orderly n) {query : Value} {given : BackendAnswer}
    (hanswer : s.answer query given = .ok next) : next.Orderly n := by
  obtain ⟨id, hpending, rfl⟩ := answer_eq_ok hanswer
  obtain ⟨sent, hsent, hwaiting⟩ := mem_pending.mp hpending
  have hsettled := horderly.attended.settle hsent hwaiting (.answered given) rfl
    (s.ready ++ [.receive id]) (fun _ hmem => List.mem_append_left _ hmem)
    (fun other => by by_cases heq : id = other <;> simp [heq])
  exact horderly.congr hsettled rfl rfl

theorem Orderly.of_move (horderly : s.Orderly n) (hsound : s.Sound)
    (hmove : s.Move next) : next.Orderly n := by
  cases hmove with
  | step hstep => exact horderly.step hsound hstep
  | order order hbegun => exact horderly.addTask (by rintro t ⟨⟩; rfl)
  | orderAll filters window scope => exact horderly.addTask (by simp)
  | answer hanswer => exact horderly.answer hanswer
  | effect heffect =>
      have hattended := horderly.attended.applyEffect heffect
      obtain ⟨registry, queries, ready, rfl, -⟩ := applyEffect_eq heffect
      exact horderly.congr hattended rfl rfl
  | reset => exact horderly.congr (horderly.attended.congr rfl rfl) rfl rfl
  | configure => exact horderly.congr (horderly.attended.congr rfl rfl) rfl rfl

theorem Orderly.of_leadsTo (horderly : s.Orderly n) (hsound : s.Sound)
    (hleads : s.LeadsTo next) : next.Orderly n := by
  induction hleads with
  | refl => exact horderly
  | tail hbefore hmove ih => exact ih.of_move (hsound.of_leadsTo hbefore) hmove

theorem IsNew.orderly (hnew : s.IsNew) (hlimiter : s.limiter = { capacity := n })
    (hqueries : s.queries = []) : s.Orderly n := by
  have hstates : s.states = fun _ => none := by
    funext id
    simp [states, loadTask?, hnew.tasks]
  constructor
  · rw [hlimiter, hstates]
    exact Limiter.balanced_new n
  · rw [hstates]
    constructor <;> simp [hnew.ready, hqueries]

end Session

end RequestBreakdown
