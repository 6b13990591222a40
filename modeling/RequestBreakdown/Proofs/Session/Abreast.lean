import RequestBreakdown.Proofs.Load.Stages
import RequestBreakdown.Proofs.Session.Hearing

/-!
# A load as it would be alone

The load of a session is compared with one that hears the same in a record of its own.
Both stand at the same query at every moment, and say the same of themselves, but for a
rate that an earlier load of the breakdown has left and for what others write meanwhile.
-/

namespace RequestBreakdown

namespace Session

variable {s next : Session} {id : TaskId} {t : LoadTask} {activity : Activity}
  {record : RecordId} {rate : Option Number} {alone : LoadStep}

/-! ## Loads that are over -/

theorem step_of_over (hsound : s.Sound) (hstep : s.step? = some next)
    (hactor : s.actor? = some id) (hload : s.loadTask? id = some t)
    (hover : t.state.run? = none) (hbegun : t.state ≠ .created) :
    ∃ rest, next = { s with ready := rest } := by
  obtain ⟨event, rest, -, hevent, hstart, rfl⟩ :=
    exists_event_of_step hsound hstep hactor hload hbegun
  have hload' : ({ s with ready := rest } : Session).loadTask? id = some t := hload
  exact ⟨rest, handle_of_over hload' hover hevent hstart⟩

theorem state_of_move {state : LoadTaskState} (hsound : s.Sound)
    (hover : state.run? = none) (hbegun : state ≠ .created) (hmove : s.Move next)
    (hstate : ∃ t, s.loadTask? id = some t ∧ t.state = state) :
    ∃ t, next.loadTask? id = some t ∧ t.state = state := by
  obtain ⟨t, hload, rfl⟩ := hstate
  obtain ⟨_, actor, hturn, hown⟩ := exists_turn_of_move hsound hmove id
  by_cases heq : id = actor
  · obtain ⟨hstep, hactor⟩ := hown heq
    obtain ⟨rest, rfl⟩ := step_of_over hsound hstep hactor hload hover hbegun
    exact ⟨t, hload, rfl⟩
  · obtain ⟨u, hu, _, hidles⟩ := hturn.loads id t hload
    refine ⟨u, hu, ?_⟩
    generalize t.state = old at hover hidles
    generalize u.state = new at hidles
    cases hidles heq with
    | same => rfl
    | granted run => simp [LoadTaskState.run?] at hover

theorem state_of_leadsTo {state : LoadTaskState} (hsound : s.Sound)
    (hover : state.run? = none) (hbegun : state ≠ .created) (hleads : s.LeadsTo next)
    (hstate : ∃ t, s.loadTask? id = some t ∧ t.state = state) :
    ∃ t, next.loadTask? id = some t ∧ t.state = state := by
  induction hleads with
  | refl => exact hstate
  | tail hbefore hmove ih =>
      exact state_of_move (hsound.of_leadsTo hbefore) hover hbegun hmove ih

/-- A load that was under way is over. -/
def HasEnded (s : Session) (id : TaskId) : Prop :=
  ∃ t, s.loadTask? id = some t ∧ t.state.run? = none ∧ t.state ≠ .created

theorem HasEnded.of_leadsTo (hsound : s.Sound) (hleads : s.LeadsTo next)
    (hended : s.HasEnded id) : next.HasEnded id := by
  obtain ⟨t, hload, hover, hbegun⟩ := hended
  obtain ⟨u, hu, hstate⟩ := state_of_leadsTo hsound hover hbegun hleads ⟨t, hload, rfl⟩
  exact ⟨u, hu, by rwa [hstate], by rwa [hstate]⟩

theorem reply?_of_over (hload : s.loadTask? id = some t) (hover : t.state.run? = none) :
    s.reply? id = none := by
  unfold reply?
  split
  · rfl
  · rename_i event rest hready
    split
    · rw [hload, Option.bind_some]
      cases hstate : t.state <;> simp [hstate, LoadTaskState.run?] at hover <;>
        cases event <;> rfl
    · rfl

/-! ## How a load begins -/

/-- What a load does first that has a record of its own. -/
def beginAlone (s : Session) (order : LoadOrder) (current : Bool) : Except Fault LoadStep :=
  (LoadRequest.prepareFor s.planner s.now s.topN order.breakdown order.filters
    order.window).map fun request =>
      Load.startUnless (LoadRequest.limitFault? s.topN) request order.filters s.modes
        (Progress.begin { breakdownId := order.breakdown.id }) current

theorem startActivity_ready {scope : Value} {a : Activity} (ready : List TaskEvent)
    (hstart : s.startActivity scope = .ok (next, a)) :
    ∃ other, ({ s with ready } : Session).startActivity scope = .ok (other, a) ∧
      other.registry = next.registry := by
  obtain ⟨registry, hregistry, rfl⟩ := startActivity_eq_ok hstart
  refine ⟨({ s with ready } : Session).withRegistry registry, ?_, ?_⟩
  · unfold startActivity
    exact bind_eq_ok.mpr ⟨(registry, a), hregistry, rfl⟩
  · obtain ⟨queries, ready₁, heq, _⟩ := s.withRegistry_eq registry
    obtain ⟨queries', ready₂, heq', _⟩ :=
      ({ s with ready } : Session).withRegistry_eq registry
    rw [heq, heq']

theorem activityFor_ready {order : LoadOrder} {a : Activity} (ready : List TaskEvent)
    (hactivity : s.activityFor order = .ok (next, a)) :
    ∃ other, ({ s with ready } : Session).activityFor order = .ok (other, a) ∧
      other.registry = next.registry := by
  unfold activityFor at hactivity ⊢
  split at hactivity
  · rename_i b hb
    simp only [pure, Except.pure, Except.ok.injEq, Prod.mk.injEq] at hactivity
    obtain ⟨rfl, rfl⟩ := hactivity
    exact ⟨{ s with ready }, rfl, rfl⟩
  · obtain ⟨latest, hlatest, hactivity⟩ := bind_eq_ok.mp hactivity
    cases latest with
    | none =>
        obtain ⟨other, hother, hregistry⟩ := startActivity_ready ready hactivity
        exact ⟨other, bind_eq_ok.mpr ⟨none, hlatest, hother⟩, hregistry⟩
    | some b =>
        simp only [pure, Except.pure, Except.ok.injEq, Prod.mk.injEq] at hactivity
        obtain ⟨rfl, rfl⟩ := hactivity
        exact ⟨{ s with ready }, bind_eq_ok.mpr ⟨some b, hlatest, rfl⟩, rfl⟩

/-! ## The same load twice -/

/-- A load stands where it would alone, and its record says so, but for the phase. -/
structure Abreast (s : Session) (id : TaskId) (activity : Activity) (record : RecordId)
    (rate : Option Number) (alone : LoadStep) : Prop where
  stands : s.StandsAt id activity record alone
  progress : alone.progress.Alike rate (s.record record)

/-- When the load is over, its record has the phase that it would have alone. -/
def SaysPhase (s : Session) (record : RecordId) (alone : LoadStep) : Prop :=
  alone.query = none → (s.record record).phase = alone.progress.phase

theorem abreast_follow {step : LoadStep} (hload : s.HasLoad id t)
    (hlt : record < s.records.length) (halongside : alone.Alongside rate step) :
    (s.follow id t activity record step).Abreast id activity record rate alone ∧
      (s.follow id t activity record step).SaysPhase record alone := by
  have hrecord : (s.follow id t activity record step).record record = step.progress := by
    rw [record_follow, record_setRecord_self hlt]
  refine ⟨⟨(standsAt_follow hload).congr halongside.load halongside.query, ?_⟩, ?_⟩
  · rw [hrecord]
    exact halongside.progress
  · intro hquery
    rw [hrecord]
    exact halongside.phase hquery

theorem loadTask?_endLoad (hload : s.HasLoad id t) (fault : Fault) :
    ∃ u, (s.endLoad id t (.error fault)).loadTask? id = some u ∧
      u.state = .failed fault := by
  obtain ⟨v, hv, -⟩ := hload
  obtain ⟨ready, heq⟩ := s.endLoad_eq id t (.error fault)
  rw [heq]
  exact ⟨_, loadTask?_setLoad (t := t) (lt_of_loadTask? hv) _, rfl⟩

/-- What a load does in a record that was used before, it would do in a new one. -/
theorem beginLoad_cases (hload : s.HasLoad id t) (hlt : record < s.records.length) :
    (∃ u fault, (s.beginLoad id t activity record).loadTask? id = some u ∧
        u.state = .failed fault) ∨
      ∃ alone, s.beginAlone t.order (s.registry.isCurrent activity) = .ok alone ∧
        (s.beginLoad id t activity record).Abreast id activity record
          (s.record record).sampleRate alone ∧
        (s.beginLoad id t activity record).SaysPhase record alone := by
  have hset : Turn id s (s.setRecord record (s.record record).begin) :=
    turn_setRecord record _
  have hrecord := record_setRecord_self hlt (s.record record).begin
  unfold beginLoad beginAlone
  dsimp only
  rw [hrecord]
  cases hrequest : LoadRequest.prepareFor s.planner s.now s.topN t.order.breakdown
      t.order.filters t.order.window with
  | error fault =>
      obtain ⟨u, hu, hstate⟩ := loadTask?_endLoad (hload.of_turn hset) fault
      simp only [setRecord, hrequest]
      exact .inl ⟨u, fault, hu, hstate⟩
  | ok request =>
      simp only [setRecord, hrequest]
      exact .inr ⟨_, rfl, abreast_follow (hload.of_turn hset)
        (Nat.lt_of_lt_of_le hlt hset.records_le)
        (Load.alongside_startUnless _ _ (LoadRequest.stages_ne_nil hrequest) _
          (s.record record))⟩

theorem recordFor_in_use {breakdownId : Value}
    (hrecord : s.recordFor breakdownId = .ok (next, record)) :
    ∃ key, breakdownId.name? = some key ∧ next.shown.lookup key = some record ∧
      (next.record record).sampleRate = (s.record record).sampleRate ∧
      ∃ records shown, next = { s with records, shown } := by
  obtain ⟨key, hname, ⟨rfl, hlookup⟩ | ⟨hnone, rfl, rfl⟩⟩ := recordFor_cases hrecord
  · exact ⟨key, hname, hlookup, rfl, next.records, next.shown, rfl⟩
  · refine ⟨key, hname, ?_, ?_, _, _, rfl⟩
    · simp [List.lookup_append, hnone]
    · rw [record_append_self]
      simp [Session.record, List.getD_eq_getElem?_getD]

theorem shown_beginLoad :
    (s.beginLoad id t activity record).shown = s.shown := by
  unfold beginLoad
  dsimp only
  split
  · rename_i fault _
    obtain ⟨ready, heq⟩ :=
      (s.setRecord record (s.record record).begin).endLoad_eq id t (.error fault)
    rw [heq]
    rfl
  · obtain ⟨limiter, tasks, ready, heq⟩ := follow_eq _ id t activity record _
    rw [heq]
    rfl

/-- How a load begins: its activity, its record, and what it does as it would alone. -/
structure Begins (s : Session) (id : TaskId) (order : LoadOrder) (ordered : Session)
    (activity : Activity) (record : RecordId) (alone : LoadStep) (next : Session) : Prop where
  under : s.activityFor order = .ok (ordered, activity)
  begun : ordered.registry.HasBegun activity
  evolves : ordered.registry.Evolves next.registry
  shown : ∃ key, order.breakdown.id.name? = some key ∧ next.shown.lookup key = some record
  begins : s.beginAlone order (ordered.registry.isCurrent activity) = .ok alone
  abreast : next.Abreast id activity record (s.record record).sampleRate alone
  phase : next.SaysPhase record alone

theorem Begins.of_ready {order : LoadOrder} {ordered : Session} {ready : List TaskEvent}
    (hbegins : Begins { s with ready } id order ordered activity record alone next) :
    ∃ ordered, Begins s id order ordered activity record alone next := by
  obtain ⟨other, hother, hregistry⟩ := activityFor_ready s.ready hbegins.under
  refine ⟨other, hother, ?_, ?_, hbegins.shown, ?_, hbegins.abreast, hbegins.phase⟩
  · exact hregistry ▸ hbegins.begun
  · exact hregistry ▸ hbegins.evolves
  · exact hregistry ▸ hbegins.begins

/-- A load begins so, or it fails before it has a query. -/
theorem startLoad_cases (hsound : s.RunsSound) (hload : s.loadTask? id = some t) :
    (∃ u fault, (s.startLoad id t).loadTask? id = some u ∧ u.state = .failed fault) ∨
      ∃ ordered activity record alone,
        Begins s id t.order ordered activity record alone (s.startLoad id t) := by
  have hhas : s.HasLoad id t := ⟨t, hload, rfl⟩
  cases hactivity : s.activityFor t.order with
  | error fault =>
      obtain ⟨u, hu, hstate⟩ := loadTask?_endLoad hhas fault
      exact .inl ⟨u, fault, by simpa only [startLoad, hactivity] using hu, hstate⟩
  | ok result =>
      obtain ⟨s₁, activity⟩ := result
      obtain ⟨hfirst, hbegun⟩ : Turn id s s₁ ∧ s₁.registry.HasBegun activity :=
        turn_activityFor hsound.wellFormed
          (fun b hb => hsound.ordered id t b hload hb) hactivity
      obtain ⟨registry, queries, ready, heq⟩ := activityFor_eq hactivity
      have hhas₁ := hhas.of_turn hfirst
      cases hrecord : s₁.recordFor t.order.breakdown.id with
      | error fault =>
          obtain ⟨u, hu, hstate⟩ := loadTask?_endLoad hhas₁ fault
          exact .inl ⟨u, fault, by simpa only [startLoad, hactivity, hrecord] using hu, hstate⟩
      | ok made =>
          obtain ⟨s₂, record⟩ := made
          obtain ⟨hsecond, hregistry⟩ : Turn id s₁ s₂ ∧ s₂.registry = s₁.registry :=
            turn_recordFor hrecord
          have hhas₂ := hhas₁.of_turn hsecond
          have hlt := record_lt_of_recordFor (hfirst.runsSound hsound).shown hrecord
          obtain ⟨key, hkey, hshown, hrate, records, shown, heq₂⟩ := recordFor_in_use hrecord
          have hstart : s.startLoad id t = s₂.beginLoad id t activity record := by
            simp only [startLoad, hactivity, hrecord]
          have hturn : Turn id s₂ (s₂.beginLoad id t activity record) :=
            turn_beginLoad hhas₂ (hregistry ▸ hbegun) hlt
          rw [hstart]
          rcases @beginLoad_cases s₂ id t activity record hhas₂ hlt with
            hfailed | ⟨alone, halone, habreast, hphase⟩
          · exact .inl hfailed
          · refine .inr ⟨s₁, activity, record, alone, hactivity, hbegun,
              hsecond.registry.trans hturn.registry, ⟨key, hkey, ?_⟩, ?_, ?_, hphase⟩
            · rw [shown_beginLoad, hshown]
            · rw [hregistry, heq₂, heq] at halone
              rw [heq]
              exact halone
            · rw [hrate, heq] at habreast
              exact habreast

/-! ## Turns of the load -/

/-- A load that is over has heard all that it hears. -/
theorem Abreast.own_turn_over (habreast : s.Abreast id activity record rate alone)
    (hquery : alone.query = none) (hsound : s.Sound) (hstep : s.step? = some next)
    (hactor : s.actor? = some id) :
    s.reply? id = none ∧ ∃ rest, next = { s with ready := rest } := by
  obtain ⟨t, hload, -, hends⟩ := habreast.stands
  have hstate := hends hquery
  have hover : t.state.run? = none := by rw [hstate]; rfl
  exact ⟨reply?_of_over hload hover,
    step_of_over hsound hstep hactor hload hover (by simp [hstate])⟩

/-- A load that waits goes on with what it hears, as it would alone. -/
theorem Abreast.own_turn_waiting {query : String}
    (habreast : s.Abreast id activity record rate alone) (hquery : alone.query = some query)
    (hsound : s.Sound) (hstep : s.step? = some next) (hactor : s.actor? = some id) :
    next.Abreast id activity record rate (alone.run (s.reply? id).toList) ∧
      next.SaysPhase record (alone.run (s.reply? id).toList) ∧
      (next.registry.isCurrent activity = true →
        ∀ reply, s.reply? id = some reply → reply.current = true) := by
  obtain ⟨t, hload, hwaits, -⟩ := habreast.stands
  have hrun := hwaits query hquery
  obtain ⟨rest, hcontinues⟩ := continues_of_step hsound hstep hactor hload hrun
  have hload' : ({ s with ready := rest } : Session).loadTask? id = some t := hload
  have hadmits := (hsound.runs.of_ready rest).running id t _ hload' hrun
  generalize s.reply? id = reply at hcontinues ⊢
  cases hcontinues with
  | waits hrecords hstill =>
      have hnot : alone.query ≠ none := by simp [hquery]
      obtain ⟨u, hu, hstate⟩ := suspended?_eq_some.mp hstill
      refine ⟨⟨⟨u, hu, ?_, fun hnone => absurd hnone hnot⟩, ?_⟩,
        fun hnone => absurd hnone hnot, fun _ _ hreply => absurd hreply (by simp)⟩
      · intro other hother
        obtain rfl := Option.some.inj (hquery.symm.trans hother)
        exact hstate
      · rw [record_congr hrecords]
        exact habreast.progress
  | leaves mid reply hturn hrecords hmodes hcurrent hnext =>
      have hhas : ({ s with ready := rest } : Session).HasLoad id t := ⟨t, hload', rfl⟩
      have hadmits' := hadmits.of_turn hturn
      obtain ⟨hstands, hrecord, -⟩ := @leave_stands mid id t _ reply.outcome
        (hhas.of_turn hturn) hadmits'
      have hleave : Turn id mid (mid.leave id t _ reply.outcome) :=
        turn_leave (hhas.of_turn hturn) hadmits'
      have halongside := @Load.alongside_resume alone.load reply.modes _ _ reply.current _
        habreast.progress hadmits.waits reply.outcome
      dsimp only at hstands hrecord hcurrent
      rw [hmodes, record_congr hrecords, hcurrent] at hstands hrecord
      rw [hnext]
      refine ⟨⟨hstands.congr halongside.load halongside.query, ?_⟩, ?_, ?_⟩
      · rw [hrecord]
        exact halongside.progress
      · intro hnone
        rw [hrecord]
        exact halongside.phase hnone
      · rintro hlatest _ ⟨⟩
        rw [← hcurrent]
        exact hleave.registry.isCurrent hadmits'.begun hlatest

end Session

end RequestBreakdown
