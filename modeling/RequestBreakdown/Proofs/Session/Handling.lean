import RequestBreakdown.Proofs.Session.Turn

/-!
# Every event is a turn of one task

Each function of a session, from the registry up to the handling of an event, is
composed of turns of the task that it is called for.
-/

namespace RequestBreakdown

namespace Session

variable {s next : Session} {actor id : TaskId} {t : LoadTask}

/-! ## The registry -/

def settled (registry : ActivityRegistry QueryId) : ActivityRegistry QueryId :=
  { registry with network := { registry.network with notified := [] } }

theorem evolves_settled (registry : ActivityRegistry QueryId) :
    registry.Evolves (settled registry) :=
  ActivityRegistry.evolves_network (TokenNetwork.advances_of_tokens rfl)

theorem stopQuery_eq (s : Session) (query : QueryId) :
    ∃ queries ready, s.stopQuery query = { s with queries, ready } ∧
      queries.length = s.queries.length ∧
      ∀ id, ready.count (.start id) = s.ready.count (.start id) := by
  unfold stopQuery
  split
  · split
    · refine ⟨_, _, rfl, by simp [setQuery], ?_⟩
      intro id
      simp [setQuery]
    · exact ⟨s.queries, s.ready, rfl, rfl, fun _ => rfl⟩
  · exact ⟨s.queries, s.ready, rfl, rfl, fun _ => rfl⟩

theorem foldl_stopQuery_eq (told : List QueryId) (s : Session) :
    ∃ queries ready, told.foldl stopQuery s = { s with queries, ready } ∧
      queries.length = s.queries.length ∧
      ∀ id, ready.count (.start id) = s.ready.count (.start id) := by
  induction told generalizing s with
  | nil => exact ⟨s.queries, s.ready, rfl, rfl, fun _ => rfl⟩
  | cons query rest ih =>
      obtain ⟨queries, ready, hstop, hlength, hcount⟩ := s.stopQuery_eq query
      obtain ⟨queries', ready', hrest, hlength', hcount'⟩ :=
        ih { s with queries, ready }
      rw [List.foldl_cons, hstop]
      exact ⟨queries', ready', hrest, hlength'.trans hlength,
        fun id => (hcount' id).trans (hcount id)⟩

/-- Those who are told of a change are queries, and no task goes on at once. -/
theorem withRegistry_eq (s : Session) (registry : ActivityRegistry QueryId) :
    ∃ queries ready,
      s.withRegistry registry =
        { s with registry := settled registry, queries, ready } ∧
      queries.length = s.queries.length ∧
      ∀ id, ready.count (.start id) = s.ready.count (.start id) :=
  foldl_stopQuery_eq registry.network.notified
    { s with registry := settled registry }

theorem turn_withRegistry {registry : ActivityRegistry QueryId}
    (hevolves : s.registry.Evolves registry) :
    Turn actor s (s.withRegistry registry) := by
  obtain ⟨queries, ready, heq, _, hcount⟩ := s.withRegistry_eq registry
  rw [heq]
  exact turn_of_eq rfl hcount (hevolves.trans (evolves_settled registry))
    (keepsRecords_of_eq rfl rfl)

theorem startActivity_eq_ok {scope : Value} {a : Activity}
    (hstart : s.startActivity scope = .ok (next, a)) :
    ∃ registry, s.registry.start scope = .ok (registry, a) ∧
      next = s.withRegistry registry := by
  unfold startActivity at hstart
  cases hregistry : s.registry.start scope with
  | error fault => simp [hregistry, bind, Except.bind] at hstart
  | ok result =>
      simp only [hregistry, bind, Except.bind, pure, Except.pure, Except.ok.injEq,
        Prod.mk.injEq] at hstart
      obtain ⟨hnext, ha⟩ := hstart
      exact ⟨result.1, by rw [← ha], hnext.symm⟩

theorem turn_startActivity {scope : Value} {a : Activity}
    (hstart : s.startActivity scope = .ok (next, a)) :
    Turn actor s next ∧ next.registry.HasBegun a := by
  obtain ⟨registry, hregistry, rfl⟩ := startActivity_eq_ok hstart
  obtain ⟨hevolves, hbegun⟩ := ActivityRegistry.evolves_start hregistry
  refine ⟨turn_withRegistry hevolves, ?_⟩
  obtain ⟨queries, ready, heq, _, _⟩ := s.withRegistry_eq registry
  rw [heq]
  exact (evolves_settled registry).begun a hbegun

theorem applyEffect_eq_ok {effect : Effect} (heffect : s.applyEffect effect = .ok next) :
    ∃ registry, s.registry.Evolves registry ∧ next = s.withRegistry registry := by
  cases effect with
  | startActivity scope =>
      cases hstart : s.startActivity scope with
      | error fault => simp [applyEffect, hstart, Except.map] at heffect
      | ok result =>
          obtain ⟨registry, hregistry, hnext⟩ := startActivity_eq_ok hstart
          simp only [applyEffect, hstart, Except.map, Except.ok.injEq] at heffect
          exact ⟨registry, (ActivityRegistry.evolves_start hregistry).1,
            heffect.symm.trans hnext⟩
  | cancelActivity scope =>
      cases hcancel : s.registry.cancelCurrent scope with
      | error fault => simp [applyEffect, hcancel, Except.map] at heffect
      | ok registry =>
          simp only [applyEffect, hcancel, Except.map, Except.ok.injEq] at heffect
          exact ⟨registry, ActivityRegistry.evolves_cancelCurrent hcancel, heffect.symm⟩

theorem turn_applyEffect {effect : Effect}
    (heffect : s.applyEffect effect = .ok next) : Turn actor s next := by
  obtain ⟨registry, hevolves, rfl⟩ := applyEffect_eq_ok heffect
  exact turn_withRegistry hevolves

/-! ## Slots -/

def HasLoad (s : Session) (id : TaskId) (t : LoadTask) : Prop :=
  ∃ u, s.loadTask? id = some u ∧ t.order = u.order

theorem HasLoad.of_turn (hload : s.HasLoad id t) (hturn : Turn actor s next) :
    next.HasLoad id t := by
  obtain ⟨u, hu, horder⟩ := hload
  obtain ⟨v, hv, hsame, _⟩ := hturn.loads id u hu
  exact ⟨v, hv, horder.trans hsame.symm⟩

theorem turn_foldl {α : Type} {f : Session → α → Session}
    (hf : ∀ s x, Turn actor s (f s x)) (xs : List α) (s : Session) :
    Turn actor s (xs.foldl f s) := by
  induction xs generalizing s with
  | nil => exact .refl _ s
  | cons x rest ih =>
      rw [List.foldl_cons]
      exact (hf s x).trans (ih _)

theorem turn_releaseSlot : Turn actor s s.releaseSlot := by
  have hlimiter : Turn actor s { s with limiter := s.limiter.release.1 } :=
    turn_of_same rfl rfl rfl rfl rfl
  refine hlimiter.trans (turn_foldl (fun s id => ?_) s.limiter.release.2 _)
  split
  · rename_i t hload
    split
    · rename_i run hstate
      refine Turn.trans (turn_setLoad hload rfl (fun _ => ?_)
        (fun hsound other hother => ?_)) (turn_later (by simp))
      · rw [hstate]
        exact .granted run
      · obtain rfl : run = other := Option.some.inj hother
        exact hsound.running id t run hload (by rw [hstate]; rfl)
    · exact .refl _ _
  · exact .refl _ _

theorem turn_requestSlot {run : RunningLoad} (hload : s.HasLoad id t)
    (hrun : s.Admits run) : Turn id s (s.requestSlot id t run) := by
  obtain ⟨u, hu, horder⟩ := hload
  have hlimiter : Turn id s { s with limiter := (s.limiter.request id).1 } :=
    turn_of_same rfl rfl rfl rfl rfl
  have hset : ∀ state : LoadTaskState, state.run? = some run →
      Turn id { s with limiter := (s.limiter.request id).1 }
        (({ s with limiter := (s.limiter.request id).1 } : Session).setLoad id t
          state) := by
    intro state hstate
    refine turn_setLoad (u := u) hu horder (fun hne => absurd rfl hne)
      (fun _ other hother => ?_)
    obtain rfl := Option.some.inj (hstate.symm.trans hother)
    exact hrun.of_turn hlimiter
  unfold requestSlot
  dsimp only
  split
  · exact hlimiter.trans ((hset (.granted run) rfl).trans (turn_next (by simp)))
  · exact hlimiter.trans (hset (.queued run) rfl)

/-! ## Loads -/

theorem turn_setRecord (record : RecordId) (p : Progress) :
    Turn actor s (s.setRecord record p) :=
  turn_of_same rfl rfl rfl (by simp [setRecord]) rfl

theorem turn_endLoad {outcome : Except Fault RecordId} (hload : s.HasLoad id t) :
    Turn id s (s.endLoad id t outcome) := by
  obtain ⟨u, hu, horder⟩ := hload
  have hset : ∀ state : LoadTaskState, state.run? = none →
      Turn id s (s.setLoad id t state) := by
    intro state hstate
    refine turn_setLoad hu horder (fun hne => absurd rfl hne)
      (fun _ run hrun => ?_)
    rw [hstate] at hrun
    exact absurd hrun (by simp)
  unfold endLoad
  cases outcome with
  | ok record =>
      dsimp only
      split
      · exact (hset (.complete record) rfl).trans (turn_later (by simp))
      · exact hset (.complete record) rfl
  | error fault =>
      dsimp only
      split
      · exact (hset (.failed fault) rfl).trans (turn_later (by simp))
      · exact hset (.failed fault) rfl

/-- What a load has done is recorded and shown. -/
def withStep (s : Session) (record : RecordId) (step : LoadStep) : Session :=
  { s.setRecord record step.progress with
    renderings := s.renderings ++ step.renderings }

theorem follow_of_none {activity : Activity} {record : RecordId} {step : LoadStep}
    (hquery : step.query = none) : s.follow id t activity record step =
      (s.withStep record step).endLoad id t (.ok record) := by
  unfold follow
  rw [hquery]
  rfl

theorem follow_of_some {activity : Activity} {record : RecordId} {step : LoadStep}
    {query : String} (hquery : step.query = some query) :
    s.follow id t activity record step = (s.withStep record step).requestSlot id t
      { load := step.load, activity, record, query } := by
  unfold follow
  rw [hquery]
  rfl

theorem turn_follow {activity : Activity} {record : RecordId} {step : LoadStep}
    (hload : s.HasLoad id t) (hbegun : s.registry.HasBegun activity)
    (hrecord : record < s.records.length)
    (hpoint : step.query ≠ none → step.load.point ≠ .ended) :
    Turn id s (s.follow id t activity record step) := by
  have hshown : Turn id s (s.withStep record step) :=
    (turn_setRecord record step.progress).trans
      (turn_of_same rfl rfl rfl rfl rfl)
  cases hquery : step.query with
  | none =>
      rw [follow_of_none hquery]
      exact hshown.trans (turn_endLoad (hload.of_turn hshown))
  | some query =>
      rw [follow_of_some hquery]
      exact hshown.trans (turn_requestSlot (hload.of_turn hshown)
        ⟨hbegun, hpoint (by simp [hquery]),
          Nat.lt_of_lt_of_le hrecord hshown.records_le⟩)

/-- A load belongs to the activity that it was ordered for, or to the current one of its
scope, or else one begins. -/
theorem activityFor_eq_ok {order : LoadOrder} {a : Activity}
    (hactivity : s.activityFor order = .ok (next, a)) :
    next = s ∧ (order.activity = some a ∨
        s.registry.current? order.scope = .ok (some a)) ∨
      s.startActivity order.scope = .ok (next, a) := by
  unfold activityFor at hactivity
  split at hactivity
  · rename_i b hb
    simp only [pure, Except.pure, Except.ok.injEq, Prod.mk.injEq] at hactivity
    obtain ⟨rfl, rfl⟩ := hactivity
    exact .inl ⟨rfl, .inl hb⟩
  · cases hcurrent : s.registry.current? order.scope with
    | error fault => simp [hcurrent, bind, Except.bind] at hactivity
    | ok latest =>
        simp only [hcurrent, bind, Except.bind] at hactivity
        cases latest with
        | none => exact .inr hactivity
        | some b =>
            simp only [pure, Except.pure, Except.ok.injEq, Prod.mk.injEq]
              at hactivity
            obtain ⟨rfl, rfl⟩ := hactivity
            exact .inl ⟨rfl, .inr rfl⟩

theorem turn_activityFor {order : LoadOrder} {a : Activity}
    (hwell : s.registry.WellFormed)
    (hordered : ∀ b, order.activity = some b → s.registry.HasBegun b)
    (hactivity : s.activityFor order = .ok (next, a)) :
    Turn actor s next ∧ next.registry.HasBegun a := by
  rcases activityFor_eq_ok hactivity with ⟨rfl, horder | hcurrent⟩ | hstart
  · exact ⟨.refl _ _, hordered a horder⟩
  · refine ⟨.refl _ _, ?_⟩
    unfold ActivityRegistry.current? at hcurrent
    cases hname : ActivityRegistry.scopeOf order.scope with
    | error fault => simp [hname, Except.map] at hcurrent
    | ok name =>
        simp only [hname, Except.map, Except.ok.injEq] at hcurrent
        exact ActivityRegistry.hasBegun_of_latestIn? hwell hcurrent
  · exact turn_startActivity hstart

theorem recordFor_eq_ok {breakdownId : Value} {record : RecordId}
    (hrecord : s.recordFor breakdownId = .ok (next, record)) :
    next = s ∨ ∃ key, next = { s with
      records := s.records ++ [{ breakdownId }]
      shown := s.shown ++ [(key, s.records.length)] } := by
  unfold recordFor at hrecord
  cases hname : breakdownId.asName with
  | error fault => simp [hname, bind, Except.bind] at hrecord
  | ok name =>
      simp only [hname, bind, Except.bind] at hrecord
      split at hrecord
      · simp only [pure, Except.pure, Except.ok.injEq, Prod.mk.injEq] at hrecord
        exact .inl hrecord.1.symm
      · simp only [pure, Except.pure, Except.ok.injEq, Prod.mk.injEq] at hrecord
        exact .inr ⟨_, hrecord.1.symm⟩

theorem record_lt_of_recordFor {breakdownId : Value} {record : RecordId}
    (hshown : ∀ key r, s.shown.lookup key = some r → r < s.records.length)
    (hrecord : s.recordFor breakdownId = .ok (next, record)) :
    record < next.records.length := by
  unfold recordFor at hrecord
  cases hname : breakdownId.asName with
  | error fault => simp [hname, bind, Except.bind] at hrecord
  | ok name =>
      simp only [hname, bind, Except.bind] at hrecord
      split at hrecord
      · rename_i r hlookup
        simp only [pure, Except.pure, Except.ok.injEq, Prod.mk.injEq] at hrecord
        obtain ⟨rfl, rfl⟩ := hrecord
        exact hshown _ _ hlookup
      · simp only [pure, Except.pure, Except.ok.injEq, Prod.mk.injEq] at hrecord
        obtain ⟨rfl, rfl⟩ := hrecord
        simp

theorem turn_recordFor {breakdownId : Value} {record : RecordId}
    (hrecord : s.recordFor breakdownId = .ok (next, record)) :
    Turn actor s next ∧ next.registry = s.registry := by
  rcases recordFor_eq_ok hrecord with rfl | ⟨key, rfl⟩
  · exact ⟨.refl _ _, rfl⟩
  · refine ⟨turn_of_eq rfl (fun _ => rfl) (.refl _) ⟨by simp, ?_⟩, rfl⟩
    intro hshown name r hlookup
    rw [List.lookup_append, Option.or_eq_some_iff] at hlookup
    rcases hlookup with hold | ⟨_, hmade⟩
    · have hlt := hshown name r hold
      rw [List.length_append]
      exact Nat.lt_add_right _ hlt
    · rw [List.lookup_cons] at hmade
      split at hmade
      · rw [← Option.some.inj hmade]
        simp
      · exact absurd hmade (by simp)

theorem turn_beginLoad {activity : Activity} {record : RecordId}
    (hload : s.HasLoad id t) (hbegun : s.registry.HasBegun activity)
    (hrecord : record < s.records.length) :
    Turn id s (s.beginLoad id t activity record) := by
  have hset : Turn id s (s.setRecord record (s.record record).begin) :=
    turn_setRecord record _
  have hload' := hload.of_turn hset
  unfold beginLoad
  dsimp only
  split
  · exact hset.trans (turn_endLoad hload')
  · exact hset.trans (turn_follow hload' hbegun
      (Nat.lt_of_lt_of_le hrecord hset.records_le)
      (Load.waits_startUnless ..).point)

theorem turn_startLoad (hsound : s.RunsSound) (hload : s.loadTask? id = some t) :
    Turn id s (s.startLoad id t) := by
  have hhas : s.HasLoad id t := ⟨t, hload, rfl⟩
  unfold startLoad
  split
  · exact turn_endLoad hhas
  · rename_i s₁ activity hactivity
    obtain ⟨hfirst, hbegun⟩ := turn_activityFor hsound.wellFormed
      (fun b hb => hsound.ordered id t b hload hb) hactivity
    have hhas₁ := hhas.of_turn hfirst
    split
    · exact hfirst.trans (turn_endLoad hhas₁)
    · rename_i s₂ record hrecord
      obtain ⟨hsecond, hregistry⟩ := turn_recordFor hrecord
      exact hfirst.trans (hsecond.trans
        (turn_beginLoad (hhas₁.of_turn hsecond) (hregistry ▸ hbegun)
          (record_lt_of_recordFor (hfirst.runsSound hsound).shown hrecord)))

/-! ## All breakdowns -/

theorem turn_resetProgress : Turn actor s s.resetProgress :=
  turn_of_eq rfl (fun _ => rfl) (.refl _)
    ⟨Nat.le_refl _, fun _ _ _ hlookup => by simp [resetProgress] at hlookup⟩

theorem turn_beginGroup {g : GroupTask} {activity : Activity}
    (hgroup : s.groupTask? id = some g)
    (hbegun : s.registry.HasBegun activity) :
    Turn actor s (s.beginGroup id g activity) := by
  have hreset : Turn actor s s.resetProgress := turn_resetProgress
  have hgroup' : s.resetProgress.groupTask? id = some g := hgroup
  have hfold : ∀ (breakdowns : List Breakdown) (s : Session),
      s.registry.HasBegun activity →
      Turn actor s (breakdowns.foldl (fun s breakdown =>
        (s.addTask (.load { order := {
          breakdown, filters := g.filters, window := g.window, scope := g.scope
          activity := some activity, parent := some id } })).1) s) := by
    intro breakdowns
    induction breakdowns with
    | nil => exact fun s _ => .refl _ s
    | cons breakdown rest ih =>
        intro s hs
        rw [List.foldl_cons]
        refine Turn.trans (turn_addTask ?_) (ih _ hs)
        rintro t ⟨⟩
        exact ⟨rfl, fun a ha => Option.some.inj ha ▸ hs⟩
  unfold beginGroup
  dsimp only
  split
  · exact hreset.trans (turn_setGroup hgroup' _)
  · exact hreset.trans ((turn_setGroup hgroup' _).trans (hfold _ _ hbegun))

theorem turn_startGroup {g : GroupTask} (hgroup : s.groupTask? id = some g) :
    Turn actor s (s.startGroup id g) := by
  unfold startGroup
  split
  · rename_i s₁ activity hactivity
    obtain ⟨hturn, hbegun⟩ := turn_startActivity hactivity
    obtain ⟨registry, _, rfl⟩ := startActivity_eq_ok hactivity
    obtain ⟨queries, ready, heq, _, _⟩ := s.withRegistry_eq registry
    have hgroup' : (s.withRegistry registry).groupTask? id = some g := by
      rw [heq]
      exact hgroup
    exact hturn.trans (turn_beginGroup hgroup' hbegun)
  · exact turn_setGroup hgroup _

theorem turn_childOver {g : GroupTask} {fault : Option Fault}
    (hgroup : s.groupTask? id = some g) :
    Turn actor s (s.childOver id g fault) := by
  unfold childOver
  split
  · split
    · exact (turn_setGroup hgroup _).trans (turn_later (by simp))
    · exact turn_setGroup hgroup _
  · exact .refl _ _

theorem turn_gathered {g : GroupTask} (hgroup : s.groupTask? id = some g) :
    Turn actor s (s.gathered id g) := by
  unfold gathered
  split
  · exact turn_setGroup hgroup _
  · exact turn_setGroup hgroup _
  · exact .refl _ _

/-! ## Queries -/

theorem turn_leave {run : RunningLoad} {outcome : QueryOutcome}
    (hload : s.HasLoad id t) (hrun : s.Admits run) :
    Turn id s (s.leave id t run outcome) := by
  have hrelease : Turn id s s.releaseSlot := turn_releaseSlot
  have hrun' := hrun.of_turn hrelease
  exact hrelease.trans (turn_follow (hload.of_turn hrelease) hrun'.begun
    hrun'.record_lt (Load.waits_resume outcome).point)

theorem turn_send {run : RunningLoad} (hload : s.HasLoad id t)
    (hrun : s.Admits run) : Turn id s (s.send id t run) := by
  obtain ⟨u, hu, horder⟩ := hload
  let sent : Session := { s with
    queries := s.queries ++ [{ task := id, text := run.query, sentAt := s.clock }] }
  let asked := sent.setLoad id t (.querying run s.queries.length)
  have hsent : Turn id s sent := turn_of_same rfl rfl rfl rfl rfl
  have hasked : Turn id s asked := by
    refine hsent.trans (turn_setLoad hu horder (fun hne => absurd rfl hne)
      (fun _ other hother => ?_))
    obtain rfl : run = other := Option.some.inj hother
    exact hrun.of_turn hsent
  unfold send
  dsimp only
  split
  · rename_i answer script _
    have hanswered : Turn id asked
        (({ asked with script } : Session).setQuery s.queries.length
          (.answered answer)) := turn_of_same rfl rfl rfl rfl rfl
    exact hasked.trans (hanswered.trans (turn_next (by simp)))
  · split
    · exact hasked.trans (turn_withRegistry
        (ActivityRegistry.evolves_network (TokenNetwork.advances_register ..)))
    · exact hasked

theorem turn_enter {run : RunningLoad} (hload : s.HasLoad id t)
    (hrun : s.Admits run) : Turn id s (s.enter id t run) := by
  unfold enter
  split
  · exact turn_leave hload hrun
  · exact turn_send hload hrun

theorem turn_take {run : RunningLoad} {sentAt : ScriptedClock}
    {answer : BackendAnswer} : Turn actor s (s.take run sentAt answer).1 := by
  unfold take
  split
  · exact .refl _ _
  · rename_i clock _
    have hclock : Turn actor s { s with clock } :=
      turn_of_same rfl rfl rfl rfl rfl
    cases heffect : answer.effect with
    | none =>
        simp only [Option.elim_none]
        split <;> exact hclock
    | some effect =>
        simp only [Option.elim_some]
        cases happly : ({ s with clock } : Session).applyEffect effect with
        | error fault => exact hclock
        | ok next =>
            have hnext := hclock.trans (turn_applyEffect happly)
            dsimp only
            split <;> exact hnext

theorem turn_outcomeOf {run : RunningLoad} {q : SentQuery} :
    Turn actor s (s.outcomeOf run q).1 := by
  unfold outcomeOf
  split
  · exact turn_take
  · exact .refl _ _

theorem turn_endQuery {run : RunningLoad} {q : SentQuery} (query : QueryId) :
    Turn actor s ((s.outcomeOf run q).1.setQuery query .ended) :=
  turn_outcomeOf.trans (turn_of_same rfl rfl rfl rfl rfl)

/-! ## Events -/

def eventTask? (s : Session) : TaskEvent → Option TaskId
  | .start id | .enter id | .gathered id => some id
  | .childOver parent _ => some parent
  | .receive query => (s.queries[query]?).map (·.task)

theorem turn_receive (hsound : s.RunsSound) {query : QueryId}
    (hactor : ∀ id, s.eventTask? (.receive query) = some id → id = actor) :
    Turn actor s (s.receive query) := by
  unfold receive
  split
  · exact .refl _ _
  · rename_i q hquery
    obtain rfl := hactor q.task (by simp [eventTask?, hquery])
    split
    · exact .refl _ _
    · rename_i t hload
      split
      · rename_i run other hstate
        have hrun := hsound.running q.task t run hload (by rw [hstate]; rfl)
        have houtcome : Turn q.task s
            ((s.outcomeOf run q).1.setQuery query .ended) := turn_endQuery query
        have hhas : s.HasLoad q.task t := ⟨t, hload, rfl⟩
        exact houtcome.trans (turn_leave (hhas.of_turn houtcome)
          (hrun.of_turn houtcome))
      · exact .refl _ _

theorem turn_handle (hsound : s.RunsSound) {event : TaskEvent}
    (hactor : ∀ id, s.eventTask? event = some id → id = actor) :
    Turn actor s (s.handle event) := by
  cases event with
  | start id =>
      obtain rfl := hactor id rfl
      simp only [handle]
      split
      · rename_i t htask
        exact turn_startLoad hsound (loadTask?_eq_some.mpr htask)
      · rename_i g htask
        exact turn_startGroup (by simp [groupTask?, htask])
      · exact .refl _ _
  | enter id =>
      obtain rfl := hactor id rfl
      simp only [handle]
      split
      · rename_i t hload
        split
        · rename_i run hstate
          exact turn_enter ⟨t, hload, rfl⟩
            (hsound.running id t run hload (by rw [hstate]; rfl))
        · exact .refl _ _
      · exact .refl _ _
  | receive query => exact turn_receive hsound hactor
  | childOver parent fault =>
      simp only [handle]
      split
      · rename_i g hgroup
        exact turn_childOver hgroup
      · exact .refl _ _
  | gathered id =>
      simp only [handle]
      split
      · rename_i g hgroup
        exact turn_gathered hgroup
      · exact .refl _ _

end Session

end RequestBreakdown
