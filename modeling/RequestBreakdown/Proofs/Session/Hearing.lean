import RequestBreakdown.Proofs.Load.Alongside
import RequestBreakdown.Proofs.Session.Ownership

/-!
# What a load hears

A load goes on whenever it hears what its query has come to, and with nothing else.
So in a session, among other tasks, it takes the steps that it would take with the
same replies in a record of its own.
-/

namespace RequestBreakdown

namespace Session

variable {s mid next : Session} {id : TaskId} {t : LoadTask} {run : RunningLoad}

/-- What the load in a state hears when an event of its own happens: the outcome of its
query, or that its token was cancelled before it could be sent. -/
def heard? (s : Session) (state : LoadTaskState) : TaskEvent → Option Reply
  | .enter _ =>
    match state with
    | .granted run =>
      match s.checkToken run with
      | .error fault => some ⟨s.modes, s.registry.isCurrent run.activity, .error fault⟩
      | .ok () => none
    | _ => none
  | .receive query =>
    match state, s.queries[query]? with
    | .querying run _, some q =>
      let (ended, outcome) := s.outcomeOf run q
      some ⟨ended.modes, ended.registry.isCurrent run.activity, outcome⟩
    | _, _ => none
  | _ => none

/-- What a load hears with the event that is next. -/
def reply? (s : Session) (id : TaskId) : Option Reply :=
  match s.ready with
  | [] => none
  | event :: rest =>
    if s.eventTask? event = some id then
      (s.loadTask? id).bind fun t => heard? { s with ready := rest } t.state event
    else none

/-- A session leads to another, and a load hears so much on the way. -/
inductive Hears (id : TaskId) : List Reply → Session → Session → Prop where
  | nothing (s : Session) : Hears id [] s s
  | step {replies : List Reply} {s mid next : Session} (hhears : Hears id replies s mid)
      (hstep : mid.step? = some next) :
      Hears id (replies ++ (mid.reply? id).toList) s next
  | move {replies : List Reply} {s mid next : Session} (hhears : Hears id replies s mid)
      (hmove : mid.Move next) (hother : mid.step? ≠ some next) : Hears id replies s next

theorem Hears.leadsTo {replies : List Reply} (hhears : Hears id replies s next) :
    s.LeadsTo next := by
  induction hhears with
  | nothing => exact .refl
  | step _ hstep ih => exact ih.tail (.step hstep)
  | move _ hmove _ ih => exact ih.tail hmove

theorem Hears.trans {first second : List Reply} (hfirst : Hears id first s mid)
    (hsecond : Hears id second mid next) : Hears id (first ++ second) s next := by
  induction hsecond with
  | nothing => rwa [List.append_nil]
  | step _ hstep ih =>
      rw [← List.append_assoc]
      exact (ih hfirst).step hstep
  | move _ hmove hother ih => exact (ih hfirst).move hmove hother

/-- What a load hears while events happen. -/
def repliesWithin (id : TaskId) : Nat → Session → List Reply
  | 0, _ => []
  | fuel + 1, s =>
    match s.step? with
    | some next => (s.reply? id).toList ++ repliesWithin id fuel next
    | none => []

theorem hears_settleWithin (id : TaskId) (fuel : Nat) (s : Session) :
    Hears id (repliesWithin id fuel s) s (settleWithin fuel s) := by
  induction fuel generalizing s with
  | zero => exact .nothing s
  | succ fuel ih =>
      cases hstep : s.step? with
      | none =>
          simp only [repliesWithin, settleWithin, hstep]
          exact .nothing s
      | some next =>
          simp only [repliesWithin, settleWithin, hstep]
          exact Hears.trans (.step (.nothing s) hstep) (ih next)

theorem hears_answer {query : Value} {given : BackendAnswer} (hready : s.ready = [])
    (hanswer : s.answer query given = .ok next) : Hears id [] s next := by
  refine .move (.nothing s) (.answer hanswer) ?_
  simp [step?, hready]

theorem reply?_of_actor (hactor : s.actor? ≠ some id) : s.reply? id = none := by
  unfold reply?
  split
  · rfl
  · rename_i event rest hready
    have hevent : s.eventTask? event ≠ some id := by
      simpa [actor?, hready] using hactor
    rw [if_neg hevent]

/-! ## Where a load stands -/

/-- A load waits for the query of a step, or is over if there is none. -/
def StandsAt (s : Session) (id : TaskId) (activity : Activity) (record : RecordId)
    (step : LoadStep) : Prop :=
  ∃ t, s.loadTask? id = some t ∧
    (∀ query, step.query = some query →
      t.state.run? = some { load := step.load, activity, record, query }) ∧
    (step.query = none → t.state = .complete record)

theorem StandsAt.congr {activity : Activity} {record : RecordId} {step other : LoadStep}
    (hstands : s.StandsAt id activity record step) (hload : step.load = other.load)
    (hquery : step.query = other.query) : s.StandsAt id activity record other := by
  obtain ⟨t, ht, hwaits, hends⟩ := hstands
  rw [hload, hquery] at hwaits
  rw [hquery] at hends
  exact ⟨t, ht, hwaits, hends⟩

theorem StandsAt.begun {activity : Activity} {record : RecordId} {step : LoadStep}
    (hstands : s.StandsAt id activity record step) :
    ∃ t, s.loadTask? id = some t ∧ t.state ≠ .created := by
  obtain ⟨t, hload, hwaits, hends⟩ := hstands
  refine ⟨t, hload, fun hcreated => ?_⟩
  cases hquery : step.query with
  | none =>
      rw [hends hquery] at hcreated
      exact absurd hcreated (by simp)
  | some query =>
      have hrun := hwaits query hquery
      simp [hcreated, LoadTaskState.run?] at hrun

theorem StandsAt.isComplete {activity : Activity} {record : RecordId} {step : LoadStep}
    (hstands : s.StandsAt id activity record step) (hquery : step.query = none) :
    s.IsComplete id record := by
  obtain ⟨t, hload, -, hends⟩ := hstands
  exact ⟨t, hload, hends hquery⟩

theorem StandsAt.of_isComplete {activity : Activity} {record r : RecordId} {step : LoadStep}
    (hstands : s.StandsAt id activity record step) (hcomplete : s.IsComplete id r) :
    step.query = none ∧ record = r := by
  obtain ⟨t, hload, hwaits, hends⟩ := hstands
  obtain ⟨u, hu, hstate⟩ := hcomplete
  obtain rfl := Option.some.inj (hload.symm.trans hu)
  cases hquery : step.query with
  | none =>
      have hsame := (hends hquery).symm.trans hstate
      exact ⟨rfl, by simpa using hsame⟩
  | some query =>
      have hrun := hwaits query hquery
      simp [hstate, LoadTaskState.run?] at hrun

theorem StandsAt.of_turn {actor : TaskId} {activity : Activity} {record : RecordId}
    {step : LoadStep} {rest : List TaskEvent}
    (hstands : s.StandsAt id activity record step)
    (hturn : Turn actor { s with ready := rest } next) (hne : id ≠ actor) :
    next.StandsAt id activity record step := by
  obtain ⟨t, hload, hwaits, hends⟩ := hstands
  obtain ⟨u, hu, -, hidles⟩ := hturn.loads id t hload
  refine ⟨u, hu, fun query hquery => ?_, fun hquery => ?_⟩
  · rw [(hidles hne).run?_eq, hwaits query hquery]
  · exact (hends hquery ▸ hidles hne).eq_complete

theorem standsAt_follow {activity : Activity} {record : RecordId} {step : LoadStep}
    (hload : s.HasLoad id t) :
    (s.follow id t activity record step).StandsAt id activity record step := by
  obtain ⟨state, hstate, hwaits, hends⟩ := @stands_follow s id t activity record step hload
  exact ⟨_, hstate, hwaits, hends⟩

theorem record_follow {activity : Activity} {record : RecordId} {step : LoadStep}
    (r : RecordId) :
    (s.follow id t activity record step).record r =
      (s.setRecord record step.progress).record r := by
  obtain ⟨limiter, tasks, ready, heq⟩ := s.follow_eq id t activity record step
  rw [heq]
  rfl

theorem record_setRecord_self {record : RecordId} (hlt : record < s.records.length)
    (p : Progress) : (s.setRecord record p).record record = p := by
  simp [Session.record, setRecord, List.getD_eq_getElem?_getD, hlt]

theorem record_setRecord_of_ne {record r : RecordId} (hne : r ≠ record) (p : Progress) :
    (s.setRecord record p).record r = s.record r := by
  rcases s.record_setRecord record r p with ⟨-, heq⟩ | hsame
  · exact absurd heq hne
  · exact hsame

/-! ## Turns of a load that waits -/

/-- A load that leaves its slot goes on as its outcome tells, and writes to its own
record. -/
theorem leave_stands {outcome : QueryOutcome} (hload : s.HasLoad id t) (hrun : s.Admits run) :
    let step := run.load.resume s.modes (s.record run.record)
      (s.registry.isCurrent run.activity) outcome
    (s.leave id t run outcome).StandsAt id run.activity run.record step ∧
      (s.leave id t run outcome).record run.record = step.progress ∧
      ∀ r, r ≠ run.record → (s.leave id t run outcome).record r = s.record r := by
  intro step
  have hrelease : Turn id s s.releaseSlot := turn_releaseSlot
  obtain ⟨tasks, ready, heq⟩ := s.releaseSlot_eq
  have hleave : s.leave id t run outcome =
      s.releaseSlot.follow id t run.activity run.record step := by
    unfold leave
    rw [heq]
    rfl
  have hlt := (hrun.of_turn hrelease).record_lt
  rw [hleave]
  refine ⟨standsAt_follow (hload.of_turn hrelease), ?_, fun r hne => ?_⟩
  · rw [record_follow, record_setRecord_self hlt]
  · rw [record_follow, record_setRecord_of_ne hne]
    exact record_congr (by rw [heq]) r

/-- What an event comes to for a load that waits: it hears nothing, and waits on with its
query as it was; or it goes on with what it hears. -/
inductive Continues (id : TaskId) (t : LoadTask) (run : RunningLoad) (s next : Session) :
    Option Reply → Prop where
  | waits (hrecords : next.records = s.records)
      (hrun : next.suspended? id = some run) : Continues id t run s next none
  | leaves (mid : Session) (reply : Reply) (hturn : Turn id s mid)
      (hrecords : mid.records = s.records) (hmodes : mid.modes = reply.modes)
      (hcurrent : mid.registry.isCurrent run.activity = reply.current)
      (hnext : next = mid.leave id t run reply.outcome) :
      Continues id t run s next (some reply)

theorem continues_enter {other : TaskId} (hload : s.loadTask? id = some t)
    (hrun : t.state.run? = some run) (hevent : s.eventTask? (.enter other) = some id) :
    Continues id t run s (s.handle (.enter other)) (s.heard? t.state (.enter other)) := by
  obtain rfl : other = id := Option.some.inj hevent
  have hwaits : s.suspended? other = some run := suspended?_eq_some.mpr ⟨t, hload, hrun⟩
  simp only [handle, hload, heard?]
  cases hstate : t.state with
  | granted granted =>
      obtain rfl : granted = run := by simpa [hstate, LoadTaskState.run?] using hrun
      dsimp only
      unfold enter
      cases hcheck : s.checkToken granted with
      | error fault =>
          exact .leaves s _ (.refl _ _) rfl rfl rfl rfl
      | ok _ =>
          obtain ⟨script, registry, queries, ready, heq⟩ := s.send_eq other t granted
          exact .waits (by dsimp only; rw [heq]; rfl) (suspended?_send hload)
  | _ => exact .waits rfl hwaits

theorem continues_receive {query : QueryId} (hload : s.loadTask? id = some t)
    (hrun : t.state.run? = some run) (hevent : s.eventTask? (.receive query) = some id) :
    Continues id t run s (s.handle (.receive query)) (s.heard? t.state (.receive query)) := by
  have hwaits : s.suspended? id = some run := suspended?_eq_some.mpr ⟨t, hload, hrun⟩
  obtain ⟨q, hquery, rfl⟩ := Option.map_eq_some_iff.mp hevent
  simp only [handle, receive, hquery, hload, heard?]
  cases hstate : t.state with
  | querying asking asked =>
      obtain rfl : asking = run := by simpa [hstate, LoadTaskState.run?] using hrun
      obtain ⟨clock, registry, queries, ready, heq, -⟩ := s.outcomeOf_eq asking q
      exact .leaves ((s.outcomeOf asking q).1.setQuery query .ended) _
        (turn_endQuery query) (by rw [heq]; rfl) rfl rfl rfl
  | _ => exact .waits rfl hwaits

theorem continues_handle {event : TaskEvent} (hload : s.loadTask? id = some t)
    (hrun : t.state.run? = some run) (hevent : s.eventTask? event = some id)
    (hstart : event ≠ .start id) :
    Continues id t run s (s.handle event) (s.heard? t.state event) := by
  have hwaits : s.suspended? id = some run := suspended?_eq_some.mpr ⟨t, hload, hrun⟩
  have hnone := groupTask?_of_loadTask? hload
  cases event with
  | start other =>
      obtain rfl : other = id := Option.some.inj hevent
      exact absurd rfl hstart
  | enter other => exact continues_enter hload hrun hevent
  | receive query => exact continues_receive hload hrun hevent
  | childOver parent fault =>
      obtain rfl : parent = id := Option.some.inj hevent
      rw [show s.handle (.childOver parent fault) = s by simp [handle, hnone]]
      exact .waits rfl hwaits
  | gathered other =>
      obtain rfl : other = id := Option.some.inj hevent
      rw [show s.handle (.gathered other) = s by simp [handle, hnone]]
      exact .waits rfl hwaits

theorem reply?_of_event {event : TaskEvent} {rest : List TaskEvent}
    (hready : s.ready = event :: rest)
    (hevent : eventTask? { s with ready := rest } event = some id)
    (hload : s.loadTask? id = some t) :
    s.reply? id = heard? { s with ready := rest } t.state event := by
  have hevent' : s.eventTask? event = some id := by
    cases event <;> exact hevent
  unfold reply?
  rw [hready]
  simp only [hevent', hload, if_true, Option.bind_some]

theorem continues_of_step (hsound : s.Sound) (hstep : s.step? = some next)
    (hactor : s.actor? = some id) (hload : s.loadTask? id = some t)
    (hrun : t.state.run? = some run) :
    ∃ rest, Continues id t run { s with ready := rest } next (s.reply? id) := by
  obtain ⟨event, rest, hready, hevent, hstart, rfl⟩ :=
    exists_event_of_step hsound hstep hactor hload (by
      intro hcreated
      simp [hcreated, LoadTaskState.run?] at hrun)
  have hload' : ({ s with ready := rest } : Session).loadTask? id = some t := hload
  refine ⟨rest, ?_⟩
  rw [reply?_of_event hready hevent hload]
  exact continues_handle hload' hrun hevent hstart

end Session

end RequestBreakdown
