import RequestBreakdown.Proofs.Load.StageEnds

/-!
# Loads in records that were used before

A load begins in the record that earlier loads of the breakdown have left, and one
that it has overtaken may still write there that it was cancelled.  To what the load
does none of that matters: with the same replies it goes on as it would in a new
record, and leaves the same there, but for a rate that is that of an earlier load as
long as no table is shown.
-/

namespace RequestBreakdown

/-- What a load has written in a record of its own, and in one with a rate of an
earlier load. -/
structure Progress.Alike (rate : Option Number) (own shown : Progress) : Prop where
  error : shown.error = own.error
  rendered : shown.rendered = own.rendered
  stageIndex : shown.stageIndex = own.stageIndex
  sampleRate : shown.sampleRate = if own.rendered then own.sampleRate else rate

/-- The same load in a record of its own, and in one that was used before. -/
structure LoadStep.Alongside (rate : Option Number) (own shown : LoadStep) : Prop where
  load : shown.load = own.load
  query : shown.query = own.query
  progress : own.progress.Alike rate shown.progress
  phase : own.query = none → shown.progress.phase = own.progress.phase

theorem Progress.Alike.withPhase {rate : Option Number} {own shown : Progress}
    (halike : own.Alike rate shown) (phase other : LoadPhase) :
    ({ own with phase } : Progress).Alike rate { shown with phase := other } :=
  ⟨halike.error, halike.rendered, halike.stageIndex, halike.sampleRate⟩

theorem LoadStep.Alongside.withRenderings {rate : Option Number} {own shown : LoadStep}
    (halongside : own.Alongside rate shown) (renderings other : List Rendering) :
    ({ own with renderings } : LoadStep).Alongside rate { shown with renderings := other } :=
  ⟨halongside.load, halongside.query, halongside.progress, halongside.phase⟩

namespace Load

variable {load : Load} {modes : CountingModes} {own shown : Progress}
  {current : Bool} {rate : Option Number}

theorem alongside_finish (halike : own.Alike rate shown) (phase : LoadPhase) :
    (load.finish own phase).Alongside rate (load.finish shown phase) :=
  ⟨rfl, rfl, halike.withPhase phase phase, fun _ => rfl⟩

theorem alongside_fail (halike : own.Alike rate shown) (fault : Fault) :
    (load.fail own current fault).Alongside rate (load.fail shown current fault) := by
  have hfailed : ({ own with error := some fault.message } : Progress).Alike rate
      { shown with error := some fault.message } :=
    ⟨rfl, halike.rendered, halike.stageIndex, halike.sampleRate⟩
  unfold fail
  split
  · exact alongside_finish halike .cancelled
  · dsimp only
    by_cases hrendered : own.rendered = true
    · rw [if_pos hrendered, if_pos (halike.rendered.trans hrendered)]
      exact alongside_finish hfailed .settled
    · rw [if_neg hrendered, if_neg (halike.rendered ▸ hrendered)]
      exact ⟨rfl, rfl, hfailed.withPhase .errored .errored, fun _ => rfl⟩

theorem alongside_enterStage (halike : own.Alike rate shown) (index : Nat)
    (stages : List SamplingStage) :
    (load.enterStage modes own current index stages).Alongside rate
      (load.enterStage modes shown current index stages) := by
  cases stages with
  | nil => exact alongside_finish halike .settled
  | cons stage later =>
      have hentered : ({ own with stageIndex := some index } : Progress).Alike rate
          { shown with stageIndex := some index } :=
        ⟨halike.error, halike.rendered, rfl, halike.sampleRate⟩
      unfold enterStage
      dsimp only
      split
      · exact alongside_fail hentered _
      · exact ⟨rfl, rfl, hentered, fun hquery => absurd hquery (by simp)⟩

theorem alongside_complete (halike : own.Alike rate shown) (place : StagePlace)
    (result : StageResult) :
    (load.complete modes own place result).Alongside rate
      (load.complete modes shown place result) := by
  have hshown : ({ own with
      rendered := true, sampleRate := some place.stage.rate
      elapsed := some result.elapsed } : Progress).Alike rate
      { shown with
        rendered := true, sampleRate := some place.stage.rate
        elapsed := some result.elapsed } :=
    ⟨halike.error, rfl, halike.stageIndex, rfl⟩
  unfold complete
  split
  · exact alongside_fail halike _
  · exact (alongside_enterStage hshown (place.index + 1) place.later).withRenderings _ _

theorem alongside_receive (halike : own.Alike rate shown) (place : StagePlace)
    (result : TimedResult) :
    (load.receive modes own place result).Alongside rate
      (load.receive modes shown place result) := by
  unfold receive
  split
  · exact alongside_fail halike _
  · dsimp only
    split
    · exact alongside_complete halike place _
    · exact alongside_fail halike _
    · exact ⟨rfl, rfl, halike, fun hquery => absurd hquery (by simp)⟩

/-- A load that waits for a query goes on in both records alike. -/
theorem alongside_resume (halike : own.Alike rate shown) (hpoint : load.point ≠ .ended)
    (outcome : QueryOutcome) :
    (load.resume modes own current outcome).Alongside rate
      (load.resume modes shown current outcome) := by
  unfold resume
  split
  · rename_i hended
    exact absurd hended hpoint
  · split
    · exact alongside_fail halike _
    · split
      · exact alongside_receive halike _ _
      · exact alongside_finish halike .cancelled
  · split
    · exact alongside_finish halike .cancelled
    · split
      · exact alongside_complete halike _ _
      · exact alongside_fail halike _

/-- With a stage to begin with, it does not matter which one an earlier load has
come to. -/
theorem alongside_startUnless (fault : Option Fault) {request : LoadRequest}
    (filters : List Filter) (hstages : request.stages ≠ []) (own shown : Progress) :
    (startUnless fault request filters modes own.begin current).Alongside shown.sampleRate
      (startUnless fault request filters modes shown.begin current) := by
  obtain ⟨stage, later, heq⟩ := List.exists_cons_of_ne_nil hstages
  have halike : ({ own.begin with
      stageCount := request.stages.length, stageIndex := some 0 } : Progress).Alike
      shown.sampleRate
      { shown.begin with stageCount := request.stages.length, stageIndex := some 0 } :=
    ⟨rfl, rfl, rfl, rfl⟩
  have hstart : (start request filters modes own.begin current).Alongside shown.sampleRate
      (start request filters modes shown.begin current) := by
    have hstage := @alongside_enterStage { request, filters, point := .ended } modes _ _
      current _ halike 0 request.stages
    unfold start
    rw [heq] at hstage ⊢
    exact hstage
  unfold startUnless
  dsimp only
  rw [hstart.query, hstart.load]
  split
  · exact alongside_fail hstart.progress _
  · exact ⟨hstart.load, hstart.query, hstart.progress, hstart.phase⟩

end Load

end RequestBreakdown
