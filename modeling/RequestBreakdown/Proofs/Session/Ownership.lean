import RequestBreakdown.Proofs.Session.Supersession

/-!
# Whose record it is

A record is made for a breakdown and keeps its name.  The record in use for a
breakdown has that name, and so has the record of every load of it: so what a load
writes reaches no record of another breakdown.
-/

namespace RequestBreakdown

/-- What records are kept under, for the name of something. -/
def Value.name? (v : Value) : Option Value := v.asName.toOption.map Value.key

/-! ## Loads keep the name of their record -/

namespace Load

variable {load : Load} {modes : CountingModes} {progress : Progress} {current : Bool}

theorem breakdownId_fail (fault : Fault) :
    (load.fail progress current fault).progress.breakdownId = progress.breakdownId := by
  unfold fail
  split
  · rfl
  · dsimp only
    split <;> rfl

theorem breakdownId_enterStage (index : Nat) (stages : List SamplingStage) :
    (load.enterStage modes progress current index stages).progress.breakdownId =
      progress.breakdownId := by
  cases stages with
  | nil => rfl
  | cons stage later =>
      unfold enterStage
      dsimp only
      split
      · exact breakdownId_fail _
      · rfl

theorem breakdownId_complete (place : StagePlace) (result : StageResult) :
    (load.complete modes progress place result).progress.breakdownId =
      progress.breakdownId := by
  unfold complete
  split
  · exact breakdownId_fail _
  · exact breakdownId_enterStage _ _

theorem breakdownId_receive (place : StagePlace) (result : TimedResult) :
    (load.receive modes progress place result).progress.breakdownId =
      progress.breakdownId := by
  unfold receive
  split
  · exact breakdownId_fail _
  · dsimp only
    split
    · exact breakdownId_complete _ _
    · exact breakdownId_fail _
    · rfl

theorem breakdownId_resume (outcome : QueryOutcome) :
    (load.resume modes progress current outcome).progress.breakdownId =
      progress.breakdownId := by
  unfold resume
  split
  · rfl
  · split
    · exact breakdownId_fail _
    · split
      · exact breakdownId_receive _ _
      · rfl
  · split
    · rfl
    · split
      · exact breakdownId_complete _ _
      · exact breakdownId_fail _

theorem breakdownId_startUnless (fault : Option Fault) (request : LoadRequest)
    (filters : List Filter) :
    (startUnless fault request filters modes progress current).progress.breakdownId =
      progress.breakdownId := by
  have hstart : (start request filters modes progress current).progress.breakdownId =
      progress.breakdownId := breakdownId_enterStage _ _
  unfold startUnless
  dsimp only
  split
  · exact (breakdownId_fail _).trans hstart
  · exact hstart

end Load

namespace Session

variable {s next : Session} {actor id : TaskId} {t : LoadTask} {name : Option Value}

/-! ## What is written -/

/-- The records in use are kept under the names of their breakdowns. -/
def ShownKeyed (s : Session) : Prop :=
  ∀ key r, s.shown.lookup key = some r →
    r < s.records.length ∧ (s.record r).breakdownId.name? = some key

/-- Nothing is written but to records of one name, and no other record comes into use. -/
structure Writes (name : Option Value) (s next : Session) : Prop where
  length_le : s.records.length ≤ next.records.length
  names : ∀ r, r < s.records.length →
    (next.record r).breakdownId = (s.record r).breakdownId
  others : ∀ r, r < s.records.length → (s.record r).breakdownId.name? ≠ name →
    next.record r = s.record r
  shown : ∀ key r, some key ≠ name → next.shown.lookup key = some r →
    s.shown.lookup key = some r
  keyed : s.ShownKeyed → next.ShownKeyed

theorem Writes.trans {last : Session} (hfirst : Writes name s next)
    (hthen : Writes name next last) : Writes name s last := by
  have hle := hfirst.length_le
  constructor
  case length_le => exact Nat.le_trans hle hthen.length_le
  case names =>
      intro r hlt
      exact (hthen.names r (Nat.lt_of_lt_of_le hlt hle)).trans (hfirst.names r hlt)
  case others =>
      intro r hlt hname
      have hsame := hfirst.others r hlt hname
      exact (hthen.others r (Nat.lt_of_lt_of_le hlt hle) (by rwa [hsame])).trans hsame
  case shown =>
      exact fun key r hkey hlookup => hfirst.shown key r hkey (hthen.shown key r hkey hlookup)
  case keyed => exact fun hkeyed => hthen.keyed (hfirst.keyed hkeyed)

theorem record_congr (hrecords : next.records = s.records) (r : RecordId) :
    next.record r = s.record r := by
  simp only [Session.record, hrecords]

theorem writes_of_same (hrecords : next.records = s.records)
    (hshown : ∀ key r, next.shown.lookup key = some r → s.shown.lookup key = some r) :
    Writes name s next := by
  have hrecord := record_congr hrecords
  constructor
  case length_le => exact Nat.le_of_eq (congrArg List.length hrecords.symm)
  case names => exact fun r _ => by rw [hrecord]
  case others => exact fun r _ _ => hrecord r
  case shown => exact fun key r _ => hshown key r
  case keyed =>
      intro hkeyed key r hlookup
      rw [hrecords, hrecord]
      exact hkeyed key r (hshown key r hlookup)

theorem writes_of_eq (hrecords : next.records = s.records) (hshown : next.shown = s.shown) :
    Writes name s next :=
  writes_of_same hrecords fun _ _ => by rw [hshown]; exact id

theorem writes_setRecord {record : RecordId} {p : Progress}
    (hname : (s.record record).breakdownId.name? = name)
    (hid : p.breakdownId = (s.record record).breakdownId) :
    Writes name s (s.setRecord record p) := by
  have hnames : ∀ r, ((s.setRecord record p).record r).breakdownId =
      (s.record r).breakdownId := by
    intro r
    rcases s.record_setRecord record r p with ⟨hset, rfl⟩ | hsame
    · rw [hset, hid]
    · rw [hsame]
  constructor
  case length_le => simp [setRecord]
  case names => exact fun r _ => hnames r
  case others =>
      intro r _ hother
      rcases s.record_setRecord record r p with ⟨-, rfl⟩ | hsame
      · exact absurd hname hother
      · exact hsame
  case shown => exact fun _ _ _ hlookup => hlookup
  case keyed =>
      intro hkeyed key r hlookup
      have hold := hkeyed key r hlookup
      rw [hnames]
      exact ⟨by simpa [setRecord] using hold.1, hold.2⟩

theorem recordFor_cases {breakdownId : Value} {record : RecordId}
    (hrecord : s.recordFor breakdownId = .ok (next, record)) :
    ∃ key, breakdownId.name? = some key ∧
      (next = s ∧ s.shown.lookup key = some record ∨
        s.shown.lookup key = none ∧ record = s.records.length ∧
          next = { s with
            records := s.records ++ [{ breakdownId }]
            shown := s.shown ++ [(key, s.records.length)] }) := by
  unfold recordFor at hrecord
  unfold Value.name?
  cases hname : breakdownId.asName with
  | error fault => simp [hname, bind, Except.bind] at hrecord
  | ok name =>
      simp only [hname, bind, Except.bind] at hrecord
      refine ⟨name.key, rfl, ?_⟩
      split at hrecord
      · rename_i r hlookup
        simp only [pure, Except.pure, Except.ok.injEq, Prod.mk.injEq] at hrecord
        obtain ⟨rfl, rfl⟩ := hrecord
        exact .inl ⟨rfl, hlookup⟩
      · rename_i hlookup
        simp only [pure, Except.pure, Except.ok.injEq, Prod.mk.injEq] at hrecord
        obtain ⟨rfl, rfl⟩ := hrecord
        exact .inr ⟨hlookup, rfl, rfl⟩

theorem record_append_of_lt {r : RecordId} (hlt : r < s.records.length) (p : Progress)
    (shown : List (Value × RecordId)) :
    ({ s with records := s.records ++ [p], shown } : Session).record r = s.record r := by
  simp [Session.record, List.getD_eq_getElem?_getD, List.getElem?_append_left hlt]

theorem record_append_self (p : Progress) (shown : List (Value × RecordId)) :
    ({ s with records := s.records ++ [p], shown } : Session).record s.records.length = p := by
  simp [Session.record, List.getD_eq_getElem?_getD]

theorem writes_recordFor {breakdownId : Value} {record : RecordId}
    (hkeyed : s.ShownKeyed) (hrecord : s.recordFor breakdownId = .ok (next, record)) :
    Writes breakdownId.name? s next ∧ record < next.records.length ∧
      (next.record record).breakdownId.name? = breakdownId.name? := by
  obtain ⟨key, hname, ⟨rfl, hlookup⟩ | ⟨hnone, rfl, rfl⟩⟩ := recordFor_cases hrecord
  · obtain ⟨hlt, hkey⟩ := hkeyed key record hlookup
    exact ⟨writes_of_eq rfl rfl, hlt, hkey.trans hname.symm⟩
  · have hlookup : ∀ other r,
        (s.shown ++ [(key, s.records.length)]).lookup other = some r →
          s.shown.lookup other = some r ∨ other = key ∧ r = s.records.length := by
      intro other r hlookup
      rw [List.lookup_append, Option.or_eq_some_iff] at hlookup
      rcases hlookup with hold | ⟨-, hmade⟩
      · exact .inl hold
      · rw [List.lookup_cons] at hmade
        split at hmade
        · rename_i heq
          exact .inr ⟨eq_of_beq heq, (Option.some.inj hmade).symm⟩
        · exact absurd hmade (by simp)
    refine ⟨?_, by simp, by rw [record_append_self]⟩
    constructor
    case length_le => simp
    case names => exact fun r hlt => by rw [record_append_of_lt hlt]
    case others => exact fun r hlt _ => record_append_of_lt hlt _ _
    case shown =>
        intro other r hother hfound
        rcases hlookup other r hfound with hold | ⟨rfl, -⟩
        · exact hold
        · exact absurd hname.symm hother
    case keyed =>
        intro _ other r hfound
        rcases hlookup other r hfound with hold | ⟨rfl, rfl⟩
        · obtain ⟨hlt, hkey⟩ := hkeyed other r hold
          rw [record_append_of_lt hlt]
          exact ⟨by rw [List.length_append]; exact Nat.lt_add_right _ hlt, hkey⟩
        · rw [record_append_self]
          exact ⟨by simp, hname⟩

/-! ## Where loads come to stand -/

theorem loadTask?_requestSlot (hload : s.HasLoad id t) (run : RunningLoad) :
    (s.requestSlot id t run).loadTask? id = some { t with state :=
      (if (s.limiter.request id).2 = true then .granted run else .queued run) } := by
  obtain ⟨u, hu, -⟩ := hload
  obtain ⟨ready, heq⟩ := s.requestSlot_eq id t run
  rw [heq]
  exact loadTask?_setLoad (s := s) (t := t) (lt_of_loadTask? hu) _

/-- A load that goes on waits for its next query, and one that does not is over. -/
theorem stands_follow {activity : Activity} {record : RecordId} {step : LoadStep}
    (hload : s.HasLoad id t) :
    ∃ state, (s.follow id t activity record step).loadTask? id = some { t with state } ∧
      (∀ query, step.query = some query →
        state.run? = some { load := step.load, activity, record, query }) ∧
      (step.query = none → state = .complete record) := by
  cases hquery : step.query with
  | none => exact ⟨_, loadTask?_follow hload hquery, by simp, fun _ => rfl⟩
  | some query =>
      have hshown : (s.withStep record step).HasLoad id t := hload
      have hstate := loadTask?_requestSlot hshown
        { load := step.load, activity, record, query }
      rw [follow_of_some hquery]
      refine ⟨_, hstate, ?_, by simp⟩
      rintro _ ⟨⟩
      split <;> rfl

/-! ## What loads write -/

theorem writes_follow {activity : Activity} {record : RecordId} {step : LoadStep}
    (hname : (s.record record).breakdownId.name? = name)
    (hid : step.progress.breakdownId = (s.record record).breakdownId) :
    Writes name s (s.follow id t activity record step) := by
  obtain ⟨limiter, tasks, ready, heq⟩ := s.follow_eq id t activity record step
  rw [heq]
  exact (writes_setRecord hname hid).trans (writes_of_eq rfl rfl)

theorem writes_endLoad (outcome : Except Fault RecordId) :
    Writes name s (s.endLoad id t outcome) := by
  obtain ⟨ready, heq⟩ := s.endLoad_eq id t outcome
  rw [heq]
  exact writes_of_eq rfl rfl

theorem writes_beginLoad {activity : Activity} {record : RecordId}
    (hlt : record < s.records.length)
    (hname : (s.record record).breakdownId.name? = name) :
    Writes name s (s.beginLoad id t activity record) := by
  have hbegin : Writes name s (s.setRecord record (s.record record).begin) :=
    writes_setRecord hname rfl
  unfold beginLoad
  dsimp only
  split
  · exact hbegin.trans (writes_endLoad _)
  · refine hbegin.trans (writes_follow ?_ (Load.breakdownId_startUnless ..))
    rw [hbegin.names record hlt, hname]

theorem writes_startLoad (hkeyed : s.ShownKeyed) (hname : t.order.breakdown.id.name? = name) :
    Writes name s (s.startLoad id t) := by
  unfold startLoad
  split
  · exact writes_endLoad _
  · rename_i s₁ activity hactivity
    obtain ⟨registry, queries, ready, heq⟩ := activityFor_eq hactivity
    have hfirst : Writes name s s₁ := by
      rw [heq]
      exact writes_of_eq rfl rfl
    split
    · exact hfirst.trans (writes_endLoad _)
    · rename_i s₂ record hrecord
      obtain ⟨hsecond, hlt, hmade⟩ := writes_recordFor (hfirst.keyed hkeyed) hrecord
      rw [hname] at hsecond hmade
      exact hfirst.trans (hsecond.trans (writes_beginLoad hlt hmade))

theorem writes_leave {run : RunningLoad} {outcome : QueryOutcome}
    (hname : (s.record run.record).breakdownId.name? = name) :
    Writes name s (s.leave id t run outcome) := by
  obtain ⟨tasks, ready, heq⟩ := s.releaseSlot_eq
  have hrelease : Writes name s s.releaseSlot := by
    rw [heq]
    exact writes_of_eq rfl rfl
  refine hrelease.trans (writes_follow ?_ (Load.breakdownId_resume _))
  rw [heq]
  exact hname

theorem writes_send (run : RunningLoad) : Writes name s (s.send id t run) := by
  obtain ⟨script, registry, queries, ready, heq⟩ := s.send_eq id t run
  rw [heq]
  exact writes_of_eq rfl rfl

theorem writes_enter {run : RunningLoad}
    (hname : (s.record run.record).breakdownId.name? = name) :
    Writes name s (s.enter id t run) := by
  unfold enter
  split
  · exact writes_leave hname
  · exact writes_send run

theorem shown_startGroup {g : GroupTask} {key : Value} {r : RecordId}
    (hlookup : (s.startGroup id g).shown.lookup key = some r) :
    s.shown.lookup key = some r := by
  unfold startGroup at hlookup
  split at hlookup
  · rename_i s₁ activity hactivity
    have hnone : (s₁.beginGroup id g activity).shown = [] := by
      unfold beginGroup
      dsimp only
      split
      · rfl
      · obtain ⟨tasks, ready, heq⟩ := foldl_eq (fun s _ => ⟨_, _, rfl⟩) s₁.breakdowns
          (s₁.resetProgress.setGroup id g (.waiting s₁.breakdowns.length))
        exact (congrArg Session.shown heq).trans rfl
    simp [hnone] at hlookup
  · exact hlookup

theorem writes_startGroup {g : GroupTask} : Writes name s (s.startGroup id g) := by
  obtain ⟨registry, queries, shown, tasks, ready, heq⟩ := s.startGroup_eq id g
  exact writes_of_same (by rw [heq]) fun _ _ => shown_startGroup

/-! ## What events write -/

/-- The records of loads under way have the names of their breakdowns, and so have
those in use. -/
structure Keyed (s : Session) : Prop where
  shown : s.ShownKeyed
  runs : ∀ id t run, s.loadTask? id = some t → t.state.run? = some run →
    (s.record run.record).breakdownId.name? = t.order.breakdown.id.name?

theorem writes_receive (hkeyed : s.Keyed) {query : QueryId}
    (hname : ∀ id t, s.eventTask? (.receive query) = some id → s.loadTask? id = some t →
      t.order.breakdown.id.name? = name) : Writes name s (s.receive query) := by
  unfold receive
  split
  · exact writes_of_eq rfl rfl
  · rename_i q hquery
    split
    · exact writes_of_eq rfl rfl
    · rename_i t hload
      split
      · rename_i run other hstate
        have hrun := hkeyed.runs q.task t run hload (by rw [hstate]; rfl)
        obtain ⟨clock, registry, queries, ready, heq, -⟩ := s.outcomeOf_eq run q
        have hended : Writes name s ((s.outcomeOf run q).1.setQuery query .ended) := by
          rw [heq]
          exact writes_of_eq rfl rfl
        refine hended.trans (writes_leave ?_)
        rw [heq]
        exact hrun.trans (hname q.task t (by simp [eventTask?, hquery]) hload)
      · exact writes_of_eq rfl rfl

theorem writes_handle (hkeyed : s.Keyed) {event : TaskEvent}
    (hname : ∀ id t, s.eventTask? event = some id → s.loadTask? id = some t →
      t.order.breakdown.id.name? = name) : Writes name s (s.handle event) := by
  cases event with
  | start id =>
      simp only [handle]
      split
      · rename_i t htask
        exact writes_startLoad hkeyed.shown
          (hname id t rfl (loadTask?_eq_some.mpr htask))
      · exact writes_startGroup
      · exact writes_of_eq rfl rfl
  | enter id =>
      simp only [handle]
      split
      · rename_i t hload
        split
        · rename_i run hstate
          have hrun := hkeyed.runs id t run hload (by rw [hstate]; rfl)
          exact writes_enter (hrun.trans (hname id t rfl hload))
        · exact writes_of_eq rfl rfl
      · exact writes_of_eq rfl rfl
  | receive query => exact writes_receive hkeyed hname
  | childOver parent fault =>
      simp only [handle]
      split
      · unfold childOver
        split
        · split <;> exact writes_of_eq rfl rfl
        · exact writes_of_eq rfl rfl
      · exact writes_of_eq rfl rfl
  | gathered id =>
      simp only [handle]
      split
      · unfold gathered
        split <;> exact writes_of_eq rfl rfl
      · exact writes_of_eq rfl rfl

/-! ## Records stay with their breakdowns -/

/-- What a task waits with after its turn has the record of its breakdown. -/
def OwnRunKeyed (id : TaskId) (s : Session) : Prop :=
  ∀ u run, s.loadTask? id = some u → u.state.run? = some run →
    (s.record run.record).breakdownId.name? = u.order.breakdown.id.name?

theorem ownRunKeyed_of_none (hnone : ∀ u, s.loadTask? id = some u → u.state.run? = none) :
    s.OwnRunKeyed id := by
  intro u run hu hrun
  rw [hnone u hu] at hrun
  exact absurd hrun (by simp)

theorem ownRunKeyed_endLoad (hload : s.HasLoad id t) (outcome : Except Fault RecordId) :
    (s.endLoad id t outcome).OwnRunKeyed id := by
  obtain ⟨v, hv, -⟩ := hload
  obtain ⟨ready, heq⟩ := s.endLoad_eq id t outcome
  apply ownRunKeyed_of_none
  intro u hu
  rw [heq] at hu
  obtain rfl := Option.some.inj
    ((loadTask?_setLoad (t := t) (lt_of_loadTask? hv) _).symm.trans hu)
  cases outcome <;> rfl

theorem ownRunKeyed_follow {activity : Activity} {record : RecordId} {step : LoadStep}
    (hload : s.HasLoad id t)
    (hname : (s.record record).breakdownId.name? = t.order.breakdown.id.name?)
    (hid : step.progress.breakdownId = (s.record record).breakdownId)
    (hlt : record < s.records.length) :
    (s.follow id t activity record step).OwnRunKeyed id := by
  obtain ⟨state, hstate, hwaits, hends⟩ := @stands_follow s id t activity record step hload
  have hnames := (@writes_follow s id t _ activity record step hname hid).names record hlt
  intro u run hu hrun
  obtain rfl := Option.some.inj (hstate.symm.trans hu)
  have hrecord : run.record = record := by
    cases hquery : step.query with
    | none =>
        rw [show state = .complete record from hends hquery] at hrun
        exact absurd hrun (by simp [LoadTaskState.run?])
    | some query =>
        have hwaiting : state.run? = some run := hrun
        rw [hwaits query hquery] at hwaiting
        rw [← Option.some.inj hwaiting]
  rw [hrecord, hnames, hname]

theorem ownRunKeyed_beginLoad {activity : Activity} {record : RecordId}
    (hload : s.HasLoad id t) (hlt : record < s.records.length)
    (hname : (s.record record).breakdownId.name? = t.order.breakdown.id.name?) :
    (s.beginLoad id t activity record).OwnRunKeyed id := by
  have hturn : Turn id s (s.setRecord record (s.record record).begin) :=
    turn_setRecord record _
  have hload' := hload.of_turn hturn
  have hnames := (writes_setRecord (p := (s.record record).begin) hname rfl).names record hlt
  unfold beginLoad
  dsimp only
  split
  · exact ownRunKeyed_endLoad hload' _
  · exact ownRunKeyed_follow hload' (by rw [hnames, hname])
      (Load.breakdownId_startUnless ..) (Nat.lt_of_lt_of_le hlt hturn.records_le)

theorem ownRunKeyed_startLoad (hsound : s.RunsSound) (hkeyed : s.ShownKeyed)
    (hload : s.loadTask? id = some t) : (s.startLoad id t).OwnRunKeyed id := by
  have hhas : s.HasLoad id t := ⟨t, hload, rfl⟩
  unfold startLoad
  split
  · exact ownRunKeyed_endLoad hhas _
  · rename_i s₁ activity hactivity
    have hfirst : Turn id s s₁ := (turn_activityFor hsound.wellFormed
      (fun b hb => hsound.ordered id t b hload hb) hactivity).1
    obtain ⟨registry, queries, ready, heq⟩ := activityFor_eq hactivity
    have hkeyed₁ : s₁.ShownKeyed := by
      rw [heq]
      exact hkeyed
    have hhas₁ := hhas.of_turn hfirst
    split
    · exact ownRunKeyed_endLoad hhas₁ _
    · rename_i s₂ record hrecord
      obtain ⟨-, hlt, hname⟩ := writes_recordFor hkeyed₁ hrecord
      have hsecond : Turn id s₁ s₂ := (turn_recordFor hrecord).1
      exact ownRunKeyed_beginLoad (hhas₁.of_turn hsecond) hlt hname

theorem ownRunKeyed_leave {run : RunningLoad} {outcome : QueryOutcome}
    (hload : s.HasLoad id t) (hrun : s.Admits run)
    (hname : (s.record run.record).breakdownId.name? = t.order.breakdown.id.name?) :
    (s.leave id t run outcome).OwnRunKeyed id := by
  have hrelease : Turn id s s.releaseSlot := turn_releaseSlot
  obtain ⟨tasks, ready, heq⟩ := s.releaseSlot_eq
  have hrecord := record_congr (show s.releaseSlot.records = s.records by rw [heq])
  exact ownRunKeyed_follow (hload.of_turn hrelease) (by rw [hrecord, hname])
    (Load.breakdownId_resume _) (hrun.of_turn hrelease).record_lt

theorem ownRunKeyed_send {run : RunningLoad} (hkeyed : s.Keyed)
    (hload : s.loadTask? id = some t) (hstate : t.state.run? = some run) :
    (s.send id t run).OwnRunKeyed id := by
  obtain ⟨script, registry, queries, ready, heq⟩ := s.send_eq id t run
  rw [heq]
  intro u other hu hother
  obtain rfl := Option.some.inj
    ((loadTask?_setLoad (t := t) (lt_of_loadTask? hload)
      (.querying run s.queries.length)).symm.trans hu)
  obtain rfl : run = other := Option.some.inj hother
  exact hkeyed.runs id t run hload hstate

theorem Keyed.ownRunKeyed (hkeyed : s.Keyed) (id : TaskId) : s.OwnRunKeyed id :=
  hkeyed.runs id

theorem ownRunKeyed_enter {run : RunningLoad} (hsound : s.RunsSound) (hkeyed : s.Keyed)
    (hload : s.loadTask? id = some t) (hstate : t.state.run? = some run) :
    (s.enter id t run).OwnRunKeyed id := by
  unfold enter
  split
  · exact ownRunKeyed_leave ⟨t, hload, rfl⟩ (hsound.running id t run hload hstate)
      (hkeyed.runs id t run hload hstate)
  · exact ownRunKeyed_send hkeyed hload hstate

theorem ownRunKeyed_receive (hsound : s.RunsSound) (hkeyed : s.Keyed) {query : QueryId}
    (hevent : s.eventTask? (.receive query) = some id) :
    (s.receive query).OwnRunKeyed id := by
  obtain ⟨q, hquery, rfl⟩ := Option.map_eq_some_iff.mp hevent
  unfold receive
  simp only [hquery]
  split
  · exact hkeyed.ownRunKeyed q.task
  · rename_i t hload
    split
    · rename_i run other hstate
      have hrun : t.state.run? = some run := by rw [hstate]; rfl
      have houtcome : Turn q.task s ((s.outcomeOf run q).1.setQuery query .ended) :=
        turn_endQuery query
      obtain ⟨clock, registry, queries, ready, heq, -⟩ := s.outcomeOf_eq run q
      have hhas : s.HasLoad q.task t := ⟨t, hload, rfl⟩
      refine ownRunKeyed_leave (hhas.of_turn houtcome)
        ((hsound.running q.task t run hload hrun).of_turn houtcome) ?_
      rw [heq]
      exact hkeyed.runs q.task t run hload hrun
    · exact hkeyed.ownRunKeyed q.task

theorem ownRunKeyed_handle (hsound : s.RunsSound) (hkeyed : s.Keyed) {event : TaskEvent}
    (hevent : s.eventTask? event = some id) (hload : s.loadTask? id = some t) :
    (s.handle event).OwnRunKeyed id := by
  have hidle := hkeyed.ownRunKeyed id
  cases event with
  | start other =>
      obtain rfl : other = id := Option.some.inj hevent
      simp only [handle, loadTask?_eq_some.mp hload]
      exact ownRunKeyed_startLoad hsound hkeyed.shown hload
  | enter other =>
      obtain rfl : other = id := Option.some.inj hevent
      simp only [handle, hload]
      split
      · rename_i run hstate
        exact ownRunKeyed_enter hsound hkeyed hload (by rw [hstate]; rfl)
      · exact hidle
  | receive query => exact ownRunKeyed_receive hsound hkeyed hevent
  | childOver parent fault =>
      obtain rfl : parent = id := Option.some.inj hevent
      simpa [handle, groupTask?_of_loadTask? hload] using hidle
  | gathered other =>
      obtain rfl : other = id := Option.some.inj hevent
      simpa [handle, groupTask?_of_loadTask? hload] using hidle

/-- The turn of a task keeps records with their breakdowns, if what the task itself
waits with afterwards has the record of its own. -/
theorem Keyed.of_turn (hkeyed : s.Keyed) (hsound : s.RunsSound) (hturn : Turn actor s next)
    (hwrites : Writes name s next) (hown : next.OwnRunKeyed actor) : next.Keyed := by
  refine ⟨hwrites.keyed hkeyed.shown, fun id u run hu hrun => ?_⟩
  by_cases heq : id = actor
  · subst heq
    exact hown u run hu hrun
  · cases hload : s.loadTask? id with
    | none =>
        have hcreated := (hturn.fresh id u hu hload).2 heq
        rw [hcreated] at hrun
        exact absurd hrun (by simp [LoadTaskState.run?])
    | some t =>
        obtain ⟨v, hv, horder, hidles⟩ := hturn.loads id t hload
        obtain rfl : u = v := Option.some.inj (hu.symm.trans hv)
        have hbefore : t.state.run? = some run := (hidles heq).run?_eq.symm.trans hrun
        have hlt := (hsound.running id t run hload hbefore).record_lt
        rw [hwrites.names run.record hlt, horder]
        exact hkeyed.runs id t run hload hbefore

/-! ## Moves -/

theorem turn_handle_of_none {event : TaskEvent}
    (hnone : ∀ id, s.eventTask? event = some id → s.loadTask? id = none)
    (actor : TaskId) : Turn actor s (s.handle event) := by
  cases event with
  | start id =>
      simp only [handle]
      split
      · rename_i t htask
        exact absurd (loadTask?_eq_some.mpr htask) (by simp [hnone id rfl])
      · rename_i g htask
        exact turn_startGroup (by simp [groupTask?, htask])
      · exact .refl _ _
  | enter id => simpa [handle, hnone id rfl] using Turn.refl actor s
  | receive query =>
      cases hquery : s.queries[query]? with
      | none => simpa [handle, receive, hquery] using Turn.refl actor s
      | some q =>
          have hload := hnone q.task (by simp [eventTask?, hquery])
          simpa [handle, receive, hquery, hload] using Turn.refl actor s
  | childOver parent fault =>
      simp only [handle]
      split
      · rename_i g hgroup
        exact turn_childOver hgroup
      · exact .refl _ _
  | gathered id =>
      simp only [handle]
      split
      · rename_i g hgroup
        exact turn_gathered hgroup
      · exact .refl _ _

theorem Keyed.of_turns (hkeyed : s.Keyed) (hsound : s.RunsSound)
    (hturn : ∀ actor, Turn actor s next) (hwrites : Writes name s next) : next.Keyed := by
  refine hkeyed.of_turn hsound (hturn next.tasks.length) hwrites fun u run hu => ?_
  exact absurd (lt_of_loadTask? hu) (Nat.lt_irrefl _)

/-- A move is the turn of a load, which writes to records of its breakdown, or it is
nobody's turn and no record is written to. -/
inductive Moved (s next : Session) : Prop where
  | turn (rest : List TaskEvent) (actor : TaskId) (t : LoadTask)
      (hstep : s.step? = some next) (hactor : s.actor? = some actor)
      (hload : s.loadTask? actor = some t) (hturn : Turn actor { s with ready := rest } next)
      (hwrites : Writes t.order.breakdown.id.name? s next) : Moved s next
  | nobody (rest : List TaskEvent) (hturn : ∀ actor, Turn actor { s with ready := rest } next)
      (hwrites : ∀ name, Writes name s next) : Moved s next

theorem Writes.of_ready {rest : List TaskEvent}
    (hwrites : Writes name { s with ready := rest } next) : Writes name s next :=
  ⟨hwrites.length_le, hwrites.names, hwrites.others, hwrites.shown, hwrites.keyed⟩

theorem moved_of_step (hsound : s.Sound) (hkeyed : s.Keyed) (hstep : s.step? = some next) :
    next.Keyed ∧ s.Moved next := by
  obtain ⟨event, rest, hready, hnext⟩ := step?_eq_some hstep
  have hruns := hsound.runs.of_ready rest
  have hkeyed' : ({ s with ready := rest } : Session).Keyed := ⟨hkeyed.shown, hkeyed.runs⟩
  have hevent : s.actor? = eventTask? { s with ready := rest } event := by
    simp only [actor?, hready, List.head?_cons, Option.bind_some]
    cases event <;> rfl
  by_cases hload : ∃ actor t, s.actor? = some actor ∧ s.loadTask? actor = some t
  · obtain ⟨actor, t, hactor, hload⟩ := hload
    have htask := hevent.symm.trans hactor
    have hown : ∀ other, eventTask? { s with ready := rest } event = some other →
        other = actor := fun other hother => Option.some.inj (hother.symm.trans htask)
    have hturn : Turn actor { s with ready := rest } next := by
      rw [hnext]
      exact turn_handle hruns hown
    have hwrites : Writes t.order.breakdown.id.name? { s with ready := rest } next := by
      rw [hnext]
      refine writes_handle hkeyed' fun other u hother hu => ?_
      obtain rfl := hown other hother
      rw [Option.some.inj (hload.symm.trans hu)]
    have hafter : next.OwnRunKeyed actor := by
      rw [hnext]
      exact ownRunKeyed_handle hruns hkeyed' htask hload
    exact ⟨hkeyed'.of_turn hruns hturn hwrites hafter,
      .turn rest actor t hstep hactor hload hturn hwrites.of_ready⟩
  · have hnone : ∀ id, eventTask? { s with ready := rest } event = some id →
        ({ s with ready := rest } : Session).loadTask? id = none := by
      intro id hid
      cases hfound : s.loadTask? id with
      | none => exact hfound
      | some t => exact absurd ⟨id, t, hevent.trans hid, hfound⟩ hload
    have hturns : ∀ actor, Turn actor { s with ready := rest } next := by
      rw [hnext]
      exact turn_handle_of_none hnone
    have hwrites : ∀ name, Writes name { s with ready := rest } next := by
      rw [hnext]
      intro name
      exact writes_handle hkeyed' fun id t hid hfound => by simp [hnone id hid] at hfound
    exact ⟨hkeyed'.of_turns hruns hturns (hwrites none),
      .nobody rest hturns fun name => (hwrites name).of_ready⟩

theorem moved_of_move (hsound : s.Sound) (hkeyed : s.Keyed) (hmove : s.Move next) :
    next.Keyed ∧ s.Moved next := by
  by_cases hstep : s.step? = some next
  · exact moved_of_step hsound hkeyed hstep
  · have hturns : ∀ actor, Turn actor s next := fun actor =>
      ((turn_of_move hmove actor).resolve_left hstep).1
    have hrecords := ((turn_of_move hmove 0).resolve_left hstep).2
    have hshown : ∀ key r, next.shown.lookup key = some r → s.shown.lookup key = some r := by
      cases hmove with
      | step h => exact absurd h hstep
      | reset => exact fun _ _ hlookup => by simp [resetProgress] at hlookup
      | answer hanswer =>
          obtain ⟨id, -, rfl⟩ := answer_eq_ok hanswer
          exact fun _ _ hlookup => hlookup
      | effect heffect =>
          obtain ⟨registry, queries, ready, rfl, -⟩ := applyEffect_eq heffect
          exact fun _ _ hlookup => hlookup
      | _ => exact fun _ _ hlookup => hlookup
    have hwrites : ∀ name, Writes name s next := fun name => writes_of_same hrecords hshown
    exact ⟨hkeyed.of_turns hsound.runs hturns (hwrites none), .nobody s.ready hturns hwrites⟩

theorem IsNew.keyed (hnew : s.IsNew) : s.Keyed := by
  refine ⟨fun key r hlookup => ?_, fun id t run hload => ?_⟩
  · simp [hnew.shown] at hlookup
  · simp [loadTask?, hnew.tasks] at hload

theorem Keyed.leadsTo (hsound : s.Sound) (hkeyed : s.Keyed) (hleads : s.LeadsTo next) :
    next.Keyed := by
  induction hleads with
  | refl => exact hkeyed
  | tail hbefore hmove ih => exact (moved_of_move (hsound.of_leadsTo hbefore) ih hmove).1

theorem Reachable.keyed (hreachable : s.Reachable) : s.Keyed := by
  obtain ⟨first, hnew, hleads⟩ := hreachable
  exact hnew.keyed.leadsTo hnew.sound hleads

theorem shown_leave (s : Session) (id : TaskId) (t : LoadTask) (run : RunningLoad)
    (outcome : QueryOutcome) : (s.leave id t run outcome).shown = s.shown := by
  obtain ⟨tasks, ready, heq⟩ := s.releaseSlot_eq
  obtain ⟨limiter', tasks', ready', hfollow⟩ := s.releaseSlot.follow_eq id t run.activity
    run.record (run.load.resume s.releaseSlot.modes (s.releaseSlot.record run.record)
      (s.releaseSlot.registry.isCurrent run.activity) outcome)
  unfold leave
  dsimp only
  rw [hfollow, heq]
  rfl

theorem shown_enter (s : Session) (id : TaskId) (t : LoadTask) (run : RunningLoad) :
    (s.enter id t run).shown = s.shown := by
  unfold enter
  split
  · exact shown_leave ..
  · obtain ⟨script, registry, queries, ready, heq⟩ := s.send_eq id t run
    rw [heq]
    rfl

theorem shown_receive (s : Session) (query : QueryId) :
    (s.receive query).shown = s.shown := by
  unfold receive
  split
  · rfl
  · rename_i q _
    split
    · rfl
    · split
      · rename_i run _ _
        obtain ⟨clock, registry, queries, ready, heq, -⟩ := s.outcomeOf_eq run q
        dsimp only
        rw [shown_leave, heq]
        rfl
      · rfl

/-- Only a load that starts brings a record into use. -/
theorem shown_handle {event : TaskEvent} (hstart : ∀ id, event ≠ .start id) :
    (s.handle event).shown = s.shown := by
  cases event with
  | start id => exact absurd rfl (hstart id)
  | enter id =>
      simp only [handle]
      split
      · split
        · exact shown_enter ..
        · rfl
      · rfl
  | receive query => exact shown_receive s query
  | childOver parent fault =>
      simp only [handle]
      split
      · unfold childOver
        split
        · split <;> rfl
        · rfl
      · rfl
  | gathered id =>
      simp only [handle]
      split
      · unfold gathered
        split <;> rfl
      · rfl

theorem shown_of_step {id : TaskId} {t : LoadTask} (hsound : s.Sound)
    (hstep : s.step? = some next) (hactor : s.actor? = some id)
    (hload : s.loadTask? id = some t) (hbegun : t.state ≠ .created) :
    next.shown = s.shown := by
  obtain ⟨event, rest, -, hevent, hstart, rfl⟩ :=
    exists_event_of_step hsound hstep hactor hload hbegun
  refine shown_handle ?_
  rintro other rfl
  obtain rfl : other = id := Option.some.inj hevent
  exact hstart rfl

end Session

end RequestBreakdown
