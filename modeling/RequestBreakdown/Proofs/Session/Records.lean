import RequestBreakdown.Proofs.Session.Handling

/-!
# What tasks record

Most functions of a session touch a few of its parts and nothing else.  The
records of progress are written to by loads only, and an error in a record is
what a load has left there that is over: as long as a load goes on, it finds and
leaves none of its own.
-/

namespace RequestBreakdown

namespace Session

variable {s next : Session} {actor id : TaskId} {t : LoadTask}

/-! ## What is touched -/

theorem foldl_eq {α : Type} {f : Session → α → Session}
    (hf : ∀ s x, ∃ tasks ready, f s x = { s with tasks, ready }) (xs : List α)
    (s : Session) : ∃ tasks ready, xs.foldl f s = { s with tasks, ready } := by
  induction xs generalizing s with
  | nil => exact ⟨s.tasks, s.ready, rfl⟩
  | cons x rest ih =>
      obtain ⟨tasks, ready, heq⟩ := hf s x
      rw [List.foldl_cons, heq]
      exact ih { s with tasks, ready }

theorem releaseSlot_eq (s : Session) : ∃ tasks ready,
    s.releaseSlot = { s with limiter := s.limiter.release.1, tasks, ready } := by
  refine foldl_eq (fun s id => ?_) s.limiter.release.2
    { s with limiter := s.limiter.release.1 }
  split
  · split
    · exact ⟨_, _, rfl⟩
    · exact ⟨s.tasks, s.ready, rfl⟩
  · exact ⟨s.tasks, s.ready, rfl⟩

theorem requestSlot_eq (s : Session) (id : TaskId) (t : LoadTask) (run : RunningLoad) :
    ∃ ready, s.requestSlot id t run =
      { s.setLoad id t (if (s.limiter.request id).2 = true then .granted run
          else .queued run) with
        limiter := (s.limiter.request id).1, ready } := by
  unfold requestSlot
  dsimp only
  split
  · exact ⟨_, rfl⟩
  · exact ⟨_, rfl⟩

theorem endLoad_eq (s : Session) (id : TaskId) (t : LoadTask)
    (outcome : Except Fault RecordId) : ∃ ready,
      s.endLoad id t outcome =
        { s.setLoad id t (match outcome with
          | .ok record => .complete record
          | .error fault => .failed fault) with ready } := by
  unfold endLoad
  cases outcome <;> dsimp only <;> split <;> exact ⟨_, rfl⟩

theorem follow_eq (s : Session) (id : TaskId) (t : LoadTask)
    (activity : Activity) (record : RecordId) (step : LoadStep) :
    ∃ limiter tasks ready, s.follow id t activity record step =
      { s.setRecord record step.progress with
        renderings := s.renderings ++ step.renderings, limiter, tasks, ready } := by
  cases hquery : step.query with
  | none =>
      obtain ⟨ready, heq⟩ := (s.withStep record step).endLoad_eq id t (.ok record)
      exact ⟨_, _, ready, (follow_of_none hquery).trans heq⟩
  | some query =>
      obtain ⟨ready, heq⟩ := (s.withStep record step).requestSlot_eq id t
        { load := step.load, activity, record, query }
      exact ⟨_, _, ready, (follow_of_some hquery).trans heq⟩

theorem loadTask?_follow {activity : Activity} {record : RecordId}
    {step : LoadStep} (hload : s.HasLoad id t) (hquery : step.query = none) :
    (s.follow id t activity record step).loadTask? id =
      some { t with state := .complete record } := by
  obtain ⟨u, hu, -⟩ := hload
  obtain ⟨ready, heq⟩ := (s.withStep record step).endLoad_eq id t (.ok record)
  rw [follow_of_none hquery, heq]
  exact loadTask?_setLoad (s := s) (t := t) (lt_of_loadTask? hu)
    (.complete record)

theorem startActivity_eq {scope : Value} {a : Activity}
    (hstart : s.startActivity scope = .ok (next, a)) :
    ∃ registry queries ready, next = { s with registry, queries, ready } ∧
      queries.length = s.queries.length := by
  obtain ⟨registry, _, rfl⟩ := startActivity_eq_ok hstart
  obtain ⟨queries, ready, heq, hlength, _⟩ := s.withRegistry_eq registry
  exact ⟨_, queries, ready, heq, hlength⟩

theorem applyEffect_eq {effect : Effect}
    (heffect : s.applyEffect effect = .ok next) :
    ∃ registry queries ready, next = { s with registry, queries, ready } ∧
      queries.length = s.queries.length := by
  obtain ⟨registry, -, rfl⟩ := applyEffect_eq_ok heffect
  obtain ⟨queries, ready, heq, hlength, _⟩ := s.withRegistry_eq registry
  exact ⟨_, queries, ready, heq, hlength⟩

theorem activityFor_eq {order : LoadOrder} {a : Activity}
    (hactivity : s.activityFor order = .ok (next, a)) :
    ∃ registry queries ready, next = { s with registry, queries, ready } := by
  rcases activityFor_eq_ok hactivity with ⟨rfl, -⟩ | hstart
  · exact ⟨next.registry, next.queries, next.ready, rfl⟩
  · obtain ⟨registry, queries, ready, heq, -⟩ := startActivity_eq hstart
    exact ⟨registry, queries, ready, heq⟩

theorem send_eq (s : Session) (id : TaskId) (t : LoadTask) (run : RunningLoad) :
    ∃ script registry queries ready, s.send id t run =
      { s.setLoad id t (.querying run s.queries.length) with
        script, registry, queries, ready } := by
  unfold send
  dsimp only
  split
  · exact ⟨_, s.registry, _, _, rfl⟩
  · split
    · obtain ⟨queries, ready, heq, _, _⟩ := withRegistry_eq
        (({ s with queries := s.queries ++
          [{ task := id, text := run.query, sentAt := s.clock }] } :
            Session).setLoad id t (.querying run s.queries.length))
        { s.registry with network :=
          (s.registry.network.register run.activity.token
            (.notify s.queries.length)).1 }
      exact ⟨s.script, _, queries, ready, heq⟩
    · exact ⟨s.script, s.registry, _, s.ready, rfl⟩

theorem outcomeOf_eq (s : Session) (run : RunningLoad) (q : SentQuery) :
    ∃ clock registry queries ready,
      (s.outcomeOf run q).1 = { s with clock, registry, queries, ready } ∧
        queries.length = s.queries.length := by
  have hself : ∃ clock registry queries ready,
      s = { s with clock, registry, queries, ready } ∧
        queries.length = s.queries.length :=
    ⟨s.clock, s.registry, s.queries, s.ready, rfl, rfl⟩
  unfold outcomeOf
  split
  · rename_i answer _
    unfold take
    split
    · exact hself
    · rename_i clock _
      have hclock : ∃ clock' registry queries ready,
          { s with clock } = { s with clock := clock', registry, queries, ready } ∧
            queries.length = s.queries.length :=
        ⟨clock, s.registry, s.queries, s.ready, rfl, rfl⟩
      cases answer.effect with
      | none =>
          simp only [Option.elim_none]
          split <;> exact hclock
      | some effect =>
          simp only [Option.elim_some]
          cases happly : ({ s with clock } : Session).applyEffect effect with
          | error fault => exact hclock
          | ok next =>
              obtain ⟨registry, queries, ready, heq, hlength⟩ := applyEffect_eq happly
              dsimp only
              split <;> exact ⟨clock, registry, queries, ready, heq, hlength⟩
  · exact hself

theorem startGroup_eq (s : Session) (id : TaskId) (g : GroupTask) :
    ∃ registry queries shown tasks ready, s.startGroup id g =
      { s with registry, queries, shown, tasks, ready } := by
  unfold startGroup
  split
  · rename_i s₁ activity hactivity
    obtain ⟨registry, queries, ready, rfl, _⟩ := startActivity_eq hactivity
    unfold beginGroup
    dsimp only
    split
    · exact ⟨registry, queries, _, _, ready, rfl⟩
    · obtain ⟨tasks, ready', heq⟩ := foldl_eq (fun s _ => ⟨_, _, rfl⟩) _ _
      exact ⟨registry, queries, _, tasks, ready', heq⟩
  · exact ⟨s.registry, s.queries, s.shown, _, s.ready, rfl⟩

/-! ## Errors in records -/

/-- Every error in a record was left there by a load that is over. -/
def Explained (s : Session) : Prop :=
  ∀ r, (s.record r).error ≠ none →
    ∃ id t, s.loadTask? id = some t ∧ t.state = .complete r

/-- The same without the load of one task. -/
def ExplainedBeside (actor : TaskId) (s : Session) : Prop :=
  ∀ r, (s.record r).error ≠ none →
    ∃ id t, id ≠ actor ∧ s.loadTask? id = some t ∧ t.state = .complete r

theorem ExplainedBeside.explained (hexplained : s.ExplainedBeside actor) :
    s.Explained := by
  intro r herror
  obtain ⟨id, t, _, hload, hstate⟩ := hexplained r herror
  exact ⟨id, t, hload, hstate⟩

theorem Explained.beside (hexplained : s.Explained)
    (hactor : ∀ t r, s.loadTask? actor = some t → t.state ≠ .complete r) :
    s.ExplainedBeside actor := by
  intro r herror
  obtain ⟨id, t, hload, hstate⟩ := hexplained r herror
  refine ⟨id, t, ?_, hload, hstate⟩
  rintro rfl
  exact hactor t r hload hstate

theorem Explained.beside_of_load (hexplained : s.Explained)
    (hload : s.loadTask? actor = some t)
    (hstate : ∀ r, t.state ≠ .complete r) : s.ExplainedBeside actor := by
  refine hexplained.beside fun u r hu hdone => ?_
  obtain rfl := Option.some.inj (hload.symm.trans hu)
  exact hstate r hdone

theorem ExplainedBeside.of_turn (hexplained : s.ExplainedBeside actor)
    (hturn : Turn actor s next)
    (hrecords : ∀ r, (next.record r).error ≠ none → (s.record r).error ≠ none) :
    next.ExplainedBeside actor := by
  intro r herror
  obtain ⟨id, t, hne, hload, hstate⟩ := hexplained r (hrecords r herror)
  obtain ⟨u, hu, _, hidles⟩ := hturn.loads id t hload
  exact ⟨id, u, hne, hu, (hstate ▸ hidles hne).eq_complete⟩

theorem record_setRecord (record r : RecordId) (p : Progress) :
    (s.setRecord record p).record r = p ∧ r = record ∨
      (s.setRecord record p).record r = s.record r := by
  simp only [Session.record, setRecord, List.getD_eq_getElem?_getD,
    List.getElem?_set]
  by_cases heq : record = r
  · subst heq
    by_cases hlt : record < s.records.length
    · left
      simp [hlt]
    · right
      simp [hlt]
  · right
    simp [heq]

theorem explained_follow {activity : Activity} {record : RecordId}
    {step : LoadStep} (hexplained : s.ExplainedBeside id)
    (hload : s.HasLoad id t) (hbegun : s.registry.HasBegun activity)
    (hlt : record < s.records.length)
    (hwaits : step.Waits (s.record record)) :
    (s.follow id t activity record step).Explained := by
  have hturn : Turn id s (s.follow id t activity record step) :=
    turn_follow hload hbegun hlt hwaits.point
  have hrecord : ∀ r, (s.follow id t activity record step).record r =
      (s.setRecord record step.progress).record r := by
    intro r
    obtain ⟨limiter, tasks, ready, heq⟩ :=
      s.follow_eq id t activity record step
    rw [heq]
    rfl
  by_cases hquery : step.query = none
  · have hdone : (s.follow id t activity record step).loadTask? id =
        some { t with state := .complete record } :=
      loadTask?_follow hload hquery
    intro r herror
    rw [hrecord] at herror
    rcases s.record_setRecord record r step.progress with ⟨_, rfl⟩ | hsame
    · exact ⟨id, _, hdone, rfl⟩
    · rw [hsame] at herror
      obtain ⟨other, u, hne, hu, hstate⟩ := hexplained r herror
      obtain ⟨v, hv, _, hidles⟩ := hturn.loads other u hu
      exact ⟨other, v, hv, (hstate ▸ hidles hne).eq_complete⟩
  · refine (hexplained.of_turn hturn fun r herror => ?_).explained
    rw [hrecord] at herror
    rcases s.record_setRecord record r step.progress with ⟨hset, rfl⟩ | hsame
    · rwa [hset, hwaits.error hquery] at herror
    · rwa [hsame] at herror

theorem explained_endLoad (hexplained : s.ExplainedBeside id)
    (hload : s.HasLoad id t) (fault : Fault) :
    (s.endLoad id t (.error fault)).Explained := by
  have hturn : Turn id s (s.endLoad id t (.error fault)) := turn_endLoad hload
  refine (hexplained.of_turn hturn fun r herror => ?_).explained
  obtain ⟨ready, heq⟩ := s.endLoad_eq id t (.error fault)
  rw [heq] at herror
  exact herror

theorem explained_beginLoad {activity : Activity} {record : RecordId}
    (hexplained : s.ExplainedBeside id) (hload : s.HasLoad id t)
    (hbegun : s.registry.HasBegun activity) (hlt : record < s.records.length) :
    (s.beginLoad id t activity record).Explained := by
  have hset : Turn id s (s.setRecord record (s.record record).begin) :=
    turn_setRecord record _
  have hload' := hload.of_turn hset
  have hexplained' : (s.setRecord record (s.record record).begin).ExplainedBeside
      id := by
    refine hexplained.of_turn hset fun r herror => ?_
    rcases s.record_setRecord record r (s.record record).begin with
      ⟨hbegin, _⟩ | hsame
    · rw [hbegin] at herror
      exact absurd rfl herror
    · rwa [hsame] at herror
  unfold beginLoad
  dsimp only
  split
  · rename_i fault _
    exact explained_endLoad hexplained' hload' fault
  · exact explained_follow hexplained' hload' hbegun
      (Nat.lt_of_lt_of_le hlt hset.records_le) (Load.waits_startUnless ..)

theorem explainedBeside_recordFor {key : Value} {record : RecordId}
    (hexplained : s.ExplainedBeside actor)
    (hrecord : s.recordFor key = .ok (next, record)) :
    next.ExplainedBeside actor := by
  refine hexplained.of_turn (turn_recordFor hrecord).1 fun r herror => ?_
  rcases recordFor_eq_ok hrecord with rfl | ⟨text, rfl⟩
  · exact herror
  · simp only [Session.record, List.getD_eq_getElem?_getD,
      List.getElem?_append] at herror ⊢
    split at herror
    · exact herror
    · -- The record that was made has no error.
      cases hindex : r - s.records.length <;> simp [hindex] at herror

theorem explained_startLoad (hsound : s.RunsSound)
    (hexplained : s.ExplainedBeside id) (hload : s.loadTask? id = some t) :
    (s.startLoad id t).Explained := by
  have hhas : s.HasLoad id t := ⟨t, hload, rfl⟩
  unfold startLoad
  split
  · exact explained_endLoad hexplained hhas _
  · rename_i s₁ activity hactivity
    obtain ⟨hfirst, hbegun⟩ := turn_activityFor hsound.wellFormed
      (fun b hb => hsound.ordered id t b hload hb) hactivity
    have hhas₁ := hhas.of_turn hfirst
    have hexplained₁ : s₁.ExplainedBeside id := by
      refine hexplained.of_turn hfirst fun r herror => ?_
      obtain ⟨registry, queries, ready, rfl⟩ := activityFor_eq hactivity
      exact herror
    split
    · exact explained_endLoad hexplained₁ hhas₁ _
    · rename_i s₂ record hrecord
      obtain ⟨hsecond, hregistry⟩ :
          Turn id s₁ s₂ ∧ s₂.registry = s₁.registry := turn_recordFor hrecord
      exact explained_beginLoad (explainedBeside_recordFor hexplained₁ hrecord)
        (hhas₁.of_turn hsecond) (hregistry ▸ hbegun)
        (record_lt_of_recordFor (hfirst.runsSound hsound).shown hrecord)

theorem explained_leave {run : RunningLoad} {outcome : QueryOutcome}
    (hexplained : s.ExplainedBeside id) (hload : s.HasLoad id t)
    (hrun : s.Admits run) : (s.leave id t run outcome).Explained := by
  have hrelease : Turn id s s.releaseSlot := turn_releaseSlot
  obtain ⟨tasks, ready, heq⟩ := s.releaseSlot_eq
  have hrun' := hrun.of_turn hrelease
  refine explained_follow (hexplained.of_turn hrelease fun r herror => ?_)
    (hload.of_turn hrelease) hrun'.begun hrun'.record_lt
    (Load.waits_resume outcome)
  rw [heq] at herror
  exact herror

theorem explained_receive (hsound : s.RunsSound) (hexplained : s.Explained)
    (query : QueryId) : (s.receive query).Explained := by
  unfold receive
  split
  · exact hexplained
  · rename_i q _
    split
    · exact hexplained
    · rename_i t hload
      split
      · rename_i run other hstate
        have hrun := hsound.running q.task t run hload (by rw [hstate]; rfl)
        have houtcome : Turn q.task s
            ((s.outcomeOf run q).1.setQuery query .ended) := turn_endQuery query
        have hbeside : s.ExplainedBeside q.task :=
          hexplained.beside_of_load hload fun r => by simp [hstate]
        have hhas : s.HasLoad q.task t := ⟨t, hload, rfl⟩
        obtain ⟨clock, registry, queries, ready, heq, _⟩ := s.outcomeOf_eq run q
        have hrecord : ∀ r, ((s.outcomeOf run q).1.setQuery query .ended).record r =
            s.record r := by
          intro r
          rw [heq]
          rfl
        exact explained_leave
          (hbeside.of_turn houtcome fun r herror => hrecord r ▸ herror)
          (hhas.of_turn houtcome) (hrun.of_turn houtcome)
      · exact hexplained

theorem explained_enter {run : RunningLoad} (hsound : s.RunsSound)
    (hexplained : s.Explained) (hload : s.loadTask? id = some t)
    (hstate : t.state = .granted run) : (s.enter id t run).Explained := by
  have hbeside : s.ExplainedBeside id :=
    hexplained.beside_of_load hload fun r => by simp [hstate]
  have hadmits := hsound.running id t run hload (by rw [hstate]; rfl)
  have hhas : s.HasLoad id t := ⟨t, hload, rfl⟩
  unfold enter
  split
  · exact explained_leave hbeside hhas hadmits
  · refine (hbeside.of_turn (turn_send hhas hadmits) fun r herror => ?_).explained
    obtain ⟨script, registry, queries, ready, heq⟩ := s.send_eq id t run
    rw [heq] at herror
    exact herror

/-- The turn of a task that is no load, and that leaves the records alone. -/
theorem explained_group {g : GroupTask} (hexplained : s.Explained)
    (hgroup : s.groupTask? id = some g) (hturn : Turn id s next)
    (hrecords : next.records = s.records) : next.Explained := by
  have hbeside : s.ExplainedBeside id := by
    refine hexplained.beside fun t r hload _ => ?_
    rw [loadTask?_eq_some] at hload
    simp [groupTask?, hload] at hgroup
  refine (hbeside.of_turn hturn fun r herror => ?_).explained
  simpa [Session.record, hrecords] using herror

/-- Events leave every error explained. -/
theorem explained_handle (hsound : s.RunsSound) (hexplained : s.Explained)
    {event : TaskEvent}
    (hcreated : ∀ id t, event = .start id → s.loadTask? id = some t →
      t.state = .created) : (s.handle event).Explained := by
  cases event with
  | start id =>
      simp only [handle]
      split
      · rename_i t htask
        have hload := loadTask?_eq_some.mpr htask
        have hstate := hcreated id t rfl hload
        exact explained_startLoad hsound
          (hexplained.beside_of_load hload fun r => by simp [hstate]) hload
      · rename_i g htask
        obtain ⟨registry, queries, shown, tasks, ready, heq⟩ := s.startGroup_eq id g
        have hfound : s.groupTask? id = some g := by simp [groupTask?, htask]
        exact explained_group hexplained hfound (turn_startGroup hfound)
          (by rw [heq])
      · exact hexplained
  | enter id =>
      simp only [handle]
      split
      · rename_i t hload
        split
        · rename_i run hstate
          exact explained_enter hsound hexplained hload hstate
        · exact hexplained
      · exact hexplained
  | receive query => exact explained_receive hsound hexplained query
  | childOver parent fault =>
      simp only [handle]
      split
      · rename_i g hfound
        apply explained_group hexplained hfound (turn_childOver hfound)
        unfold childOver
        split
        · split <;> rfl
        · rfl
      · exact hexplained
  | gathered id =>
      simp only [handle]
      split
      · rename_i g hfound
        apply explained_group hexplained hfound (turn_gathered hfound)
        unfold gathered
        split <;> rfl
      · exact hexplained

end Session

end RequestBreakdown
