import Mathlib.Data.List.Forall2
import RequestBreakdown.Proofs.Load.StageEnds

/-!
# The outcome of a load

What a load has shown and how its record stands at its end follow from how its
stages ended.  The stages shown are the first ones; the load has settled when
that is all of them, and else the end of the next stage decides: a fault under
a current activity is kept beside the tables shown or shown itself, and
everything else is the end of a load that was cancelled.
-/

namespace RequestBreakdown

def StageEnd.table? : StageEnd → Option BreakdownTable
  | .shown table _ => some table
  | _ => none

def shownTables (ends : List StageEnd) : List BreakdownTable :=
  ends.filterMap StageEnd.table?

/-- How the end of the stage that was not shown, if there is one, decides. -/
inductive Verdict (breakdownId : Value) (rendered : Bool) :
    Option StageEnd → Progress → List Rendering → Prop where
  | complete {p : Progress} (phase : p.phase = .settled)
      (error : p.error = none) : Verdict breakdownId rendered none p []
  | kept {p : Progress} {fault : Fault} (shown : rendered = true)
      (failure : fault.isCancellation = false) (phase : p.phase = .settled)
      (error : p.error = some fault.message) :
      Verdict breakdownId rendered (some (.raised fault true)) p []
  | failed {p : Progress} {fault : Fault} (shown : rendered = false)
      (failure : fault.isCancellation = false) (phase : p.phase = .errored)
      (error : p.error = some fault.message) :
      Verdict breakdownId rendered (some (.raised fault true)) p
        [.failure breakdownId fault.message]
  | cancelled {p : Progress} {ended : StageEnd}
      (quiet : ended.isFailure = false) (phase : p.phase = .cancelled)
      (error : p.error = none) : Verdict breakdownId rendered (some ended) p []

/-- What has become of a load through some stages that ended as given, if it had
or had not shown a table before, of some rate. -/
structure Outcome (load : Load) (stages : List SamplingStage)
    (rendered : Bool) (rate : Option Number) (ends : List StageEnd)
    (p : Progress) (renderings : List Rendering) : Prop where
  length_le : (shownTables ends).length ≤ stages.length
  complete_iff :
    (shownTables ends).length = stages.length ↔
      ends[(shownTables ends).length]? = none
  shows : List.Forall₂ load.Shows
    (stages.take (shownTables ends).length) (shownTables ends)
  rendered_eq : p.rendered = (rendered || 0 < (shownTables ends).length)
  sampleRate_eq : p.sampleRate =
    ((stages.take (shownTables ends).length).getLast?.map (·.rate)).or rate
  verdict : ∃ tail, renderings = (shownTables ends).map .table ++ tail ∧
    Verdict load.request.breakdown.id p.rendered ends[(shownTables ends).length]?
      p tail

namespace Load

variable {load : Load} {modes : CountingModes} {progress : Progress}
  {current : Bool}

theorem verdict_fail (fault : Fault) (herror : progress.error = none) :
    Verdict load.request.breakdown.id progress.rendered
      (some (.raised fault current)) (load.fail progress current fault).progress
      (load.fail progress current fault).renderings := by
  unfold fail
  by_cases hquiet : (fault.isCancellation || !current) = true
  · rw [if_pos hquiet]
    refine .cancelled ?_ rfl herror
    cases current <;> simp_all [StageEnd.isFailure]
  · rw [if_neg hquiet]
    simp only [Bool.or_eq_true, not_or, Bool.not_eq_true,
      Bool.not_eq_false'] at hquiet
    obtain ⟨hfailure, hcurrent⟩ := hquiet
    subst hcurrent
    cases hrendered : progress.rendered with
    | true => exact .kept rfl hfailure rfl rfl
    | false => exact .failed rfl hfailure rfl rfl

theorem fail_progress (load : Load) (progress : Progress) (current : Bool)
    (fault : Fault) :
    (load.fail progress current fault).progress.rendered = progress.rendered ∧
      (load.fail progress current fault).progress.sampleRate =
        progress.sampleRate := by
  unfold fail
  split
  · exact ⟨rfl, rfl⟩
  · simp only
    split <;> exact ⟨rfl, rfl⟩

theorem outcome_of_end {ended : StageEnd} {stage : SamplingStage}
    {later : List SamplingStage} {final : LoadStep}
    (hended : ended.table? = none)
    (hrendered : final.progress.rendered = progress.rendered)
    (hrate : final.progress.sampleRate = progress.sampleRate)
    (hverdict : Verdict load.request.breakdown.id progress.rendered (some ended)
      final.progress final.renderings) :
    Outcome load (stage :: later) progress.rendered
      progress.sampleRate [ended] final.progress final.renderings := by
  have htables : shownTables [ended] = [] := by simp [shownTables, hended]
  refine ⟨by simp [htables], by simp [htables], by simp [htables],
    by simp [htables, hrendered], by simp [htables, hrate], ?_⟩
  rw [htables, hrendered]
  exact ⟨final.renderings, by simp, hverdict⟩

theorem outcome_of_shown {table : BreakdownTable}
    {elapsed : Binary64} {stage : SamplingStage} {later : List SamplingStage}
    {rendered : Bool} {rate : Option Number} {ends : List StageEnd}
    {p : Progress} {renderings : List Rendering}
    (htable : load.Shows stage table)
    (hrest : Outcome load later true (some stage.rate) ends p renderings) :
    Outcome load (stage :: later) rendered rate (.shown table elapsed :: ends) p
      (.table table :: renderings) := by
  have htables : shownTables (.shown table elapsed :: ends) =
      table :: shownTables ends := rfl
  have hrendered : p.rendered = true := by simpa using hrest.rendered_eq
  obtain ⟨tail, hrenderings, hverdict⟩ := hrest.verdict
  refine ⟨?_, ?_, ?_, ?_, ?_, tail, ?_, ?_⟩
  · simpa [htables] using hrest.length_le
  · simpa [htables] using hrest.complete_iff
  · simpa [htables] using ⟨htable, hrest.shows⟩
  · simp [htables, hrendered]
  · rw [hrest.sampleRate_eq, htables, List.length_cons, List.take_succ_cons,
      List.getLast?_cons]
    cases (later.take (shownTables ends).length).getLast? <;> rfl
  · rw [htables, hrenderings]
    rfl
  · rw [htables]
    exact hverdict

theorem outcome_fail (fault : Fault) (stage : SamplingStage)
    (later : List SamplingStage) (replies : List Reply)
    (herror : progress.error = none) :
    Outcome load (stage :: later) progress.rendered
      progress.sampleRate [.raised fault current]
      ((load.fail progress current fault).run replies).progress
      ((load.fail progress current fault).run replies).renderings := by
  obtain ⟨hrendered, hrate⟩ := fail_progress load progress current fault
  rw [(isOver_fail fault).run_eq replies]
  exact outcome_of_end rfl hrendered hrate (verdict_fail fault herror)

theorem outcome_stale (stage : SamplingStage) (later : List SamplingStage)
    (replies : List Reply) (herror : progress.error = none) :
    Outcome load (stage :: later) progress.rendered
      progress.sampleRate [.stale]
      ((load.finish progress .cancelled).run replies).progress
      ((load.finish progress .cancelled).run replies).renderings := by
  rw [(isOver_finish .cancelled).run_eq replies]
  have hverdict : Verdict load.request.breakdown.id progress.rendered
      (some .stale) (load.finish progress .cancelled).progress [] :=
    .cancelled rfl rfl herror
  exact outcome_of_end rfl rfl rfl hverdict

theorem enterStage_of_modeFault {stage : SamplingStage}
    {later : List SamplingStage} {index : Nat} {fault : Fault}
    (hmode : load.request.modeFault? modes = some fault) :
    load.enterStage modes progress current index (stage :: later) =
      load.fail { progress with stageIndex := some index } current fault := by
  simp only [enterStage, hmode]

theorem enterStage_of_none {stage : SamplingStage} {later : List SamplingStage}
    {index : Nat} (hmode : load.request.modeFault? modes = none) :
    load.enterStage modes progress current index (stage :: later) =
      load.waiting (.main ⟨index, stage, later⟩)
        { progress with stageIndex := some index }
        (load.request.stageQuery modes stage
          (StagePlace.isLast ⟨index, stage, later⟩)) := by
  simp only [enterStage, hmode]
  rfl

/-- The later stages run as if nothing had been shown before. -/
theorem run_followEnd_shown (place : StagePlace) (table : BreakdownTable)
    (elapsed : Binary64) (rest : List Reply) :
    let step := (load.enterStage modes
      { progress with
        rendered := true, sampleRate := some place.stage.rate
        elapsed := some elapsed }
      true (place.index + 1) place.later).run rest
    (load.followEnd progress place modes (.shown table elapsed)).run rest =
      { step with renderings := .table table :: step.renderings } :=
  LoadStep.run_renderings _ [.table table] rest

theorem outcome_enterStage {index : Nat} {stages : List SamplingStage}
    {replies : List Reply} (herror : progress.error = none)
    (hended : ((load.enterStage modes progress current index stages).run
      replies).load.point = .ended) :
    Outcome load stages progress.rendered
      progress.sampleRate (load.stageEnds none modes current index stages replies)
      ((load.enterStage modes progress current index stages).run replies).progress
      ((load.enterStage modes progress current index stages).run
        replies).renderings := by
  -- Without an error so far, as every stage that is shown leaves it.
  induction stages generalizing modes progress current index replies with
  | nil =>
      have hover : (load.finish progress .settled).IsOver :=
        isOver_finish .settled
      have hrun := hover.run_eq replies
      simp only [enterStage, stageEnds, hrun]
      exact ⟨Nat.le_refl _, by simp [shownTables], .nil,
        by simp [finish, shownTables],
        by simp [finish, shownTables], [], rfl, .complete rfl herror⟩
  | cons stage later ih =>
      have hbegun : { progress with stageIndex := some index }.error = none :=
        herror
      rw [stageEnds]
      cases hmode : load.request.modeFault? modes with
      | some fault =>
          rw [enterStage_of_modeFault hmode]
          exact outcome_fail fault stage later replies hbegun
      | none =>
          rw [enterStage_of_none hmode] at hended ⊢
          cases hend : load.stageEnd? ⟨index, stage, later⟩ replies with
          | none => exact absurd hended (run_main_waiting _ hend)
          | some result =>
              obtain ⟨ended, reply, rest⟩ := result
              rw [run_main _ hend] at hended ⊢
              simp only [Option.none_or]
              cases ended with
              | raised fault current =>
                  exact outcome_fail fault stage later rest hbegun
              | stale => exact outcome_stale stage later rest hbegun
              | shown table elapsed =>
                  let shown : Progress := { progress with
                    stageIndex := some index, rendered := true
                    sampleRate := some stage.rate, elapsed := some elapsed }
                  have hshown : shown.error = none := herror
                  rw [run_followEnd_shown] at hended ⊢
                  exact outcome_of_shown (shows_stageEnd? hend)
                    (ih hshown hended)

theorem start_eq (request : LoadRequest) (filters : List Filter)
    (point : LoadPoint) :
    start request filters modes progress current =
      ({ request, filters, point } : Load).enterStage modes
        { progress with stageCount := request.stages.length } current 0
        request.stages :=
  enterStage_point { request, filters, point } .ended 0 request.stages

theorem startUnless_of_none {fault : Option Fault} {request : LoadRequest}
    {filters : List Filter}
    (hnone : (start request filters modes progress current).query = none ∨
      fault = none) :
    startUnless fault request filters modes progress current =
      start request filters modes progress current := by
  unfold startUnless
  dsimp only
  split
  · rename_i hquery
    rcases hnone with hnone | hnone
    · rw [hnone] at hquery
      exact absurd hquery (by simp)
    · exact absurd hnone (by simp)
  · rfl

theorem stageEnds_of_none {fault : Option Fault} {request : LoadRequest}
    {filters : List Filter} {point : LoadPoint}
    (hnone : (start request filters modes progress current).query = none ∨
      fault = none) (replies : List Reply) :
    stageEnds { request, filters, point } fault modes current 0 request.stages
        replies =
      stageEnds { request, filters, point } none modes current 0 request.stages
        replies := by
  rcases hnone with hnone | rfl
  · rw [start_eq request filters point] at hnone
    cases hstages : request.stages with
    | nil => rfl
    | cons stage later =>
        have hmode : request.modeFault? modes ≠ none := by
          intro hmode
          simp [enterStage, hstages, hmode] at hnone
        obtain ⟨other, hother⟩ := Option.ne_none_iff_exists'.mp hmode
        simp [stageEnds, hother]
  · rfl

/-- What goes wrong with every query goes wrong with the main query of the first
stage. -/
theorem startUnless_of_query {request : LoadRequest} {filters : List Filter}
    (fault : Fault) (point : LoadPoint)
    (hquery : (start request filters modes progress current).query ≠ none) :
    ∃ stage later, request.stages = stage :: later ∧
      request.modeFault? modes = none ∧
      startUnless (some fault) request filters modes progress current =
        ({ request, filters, point } : Load).fail
          { progress with
            stageCount := request.stages.length, stageIndex := some 0 }
          current fault := by
  have hstart : start request filters modes progress current =
      ({ request, filters, point } : Load).enterStage modes
        { progress with stageCount := request.stages.length } current 0
        request.stages :=
    start_eq request filters point
  rw [hstart] at hquery
  cases hstages : request.stages with
  | nil => simp [hstages, enterStage, finish] at hquery
  | cons stage later =>
      have hmode : request.modeFault? modes = none := by
        by_contra hmode
        obtain ⟨other, hother⟩ := Option.ne_none_iff_exists'.mp hmode
        simp only [enterStage, hstages, hother] at hquery
        exact hquery (isOver_fail other).query
      refine ⟨stage, later, rfl, hmode, ?_⟩
      simp only [startUnless, hstart, enterStage, hstages, hmode]
      rfl

/-- What becomes of a load from its beginning on. -/
theorem outcome_startUnless {fault : Option Fault} {request : LoadRequest}
    {filters : List Filter} {replies : List Reply} {point : LoadPoint}
    (herror : progress.error = none)
    (hended : ((startUnless fault request filters modes progress current).run
      replies).load.point = .ended) :
    Outcome { request, filters, point } request.stages progress.rendered
      progress.sampleRate
      (stageEnds { request, filters, point } fault modes current 0
        request.stages replies)
      ((startUnless fault request filters modes progress current).run
        replies).progress
      ((startUnless fault request filters modes progress current).run
        replies).renderings := by
  by_cases hnone : (start request filters modes progress current).query = none ∨
      fault = none
  · -- Nothing was to be asked, or nothing stands against it.
    have hcounted : { progress with
        stageCount := request.stages.length }.error = none := herror
    rw [stageEnds_of_none hnone]
    rw [startUnless_of_none hnone, start_eq request filters point] at hended ⊢
    exact outcome_enterStage hcounted hended
  · -- The main query of the first stage was to be asked.
    rw [not_or] at hnone
    obtain ⟨fault, rfl⟩ := Option.ne_none_iff_exists'.mp hnone.2
    obtain ⟨stage, later, hstages, hmode, hfail⟩ :=
      startUnless_of_query fault point hnone.1
    have hbegun : { progress with
        stageCount := request.stages.length
        stageIndex := some 0 }.error = none := herror
    rw [hfail, hstages, stageEnds, hmode]
    rw [hstages] at hbegun
    exact outcome_fail fault stage later replies hbegun

/-! ## A load at its end -/

/-- How a load stands that has shown some tables, with the end of the stage
after them if there was one. -/
structure Standing (load : Load) (tables : List BreakdownTable)
    (next : Option StageEnd) (p : Progress) (renderings : List Rendering) :
    Prop where
  length_le : tables.length ≤ load.request.stages.length
  shows : List.Forall₂ load.Shows
    (load.request.stages.take tables.length) tables
  sampleRates : tables.map (·.sampleRate) =
    (load.request.stages.take tables.length).map (·.rate.value)
  complete_iff : p.phase = .settled ∧ p.error = none ↔
    tables.length = load.request.stages.length
  kept_iff : p.phase = .settled ∧ p.error ≠ none ↔
    1 ≤ tables.length ∧ tables.length < load.request.stages.length ∧
      next.any StageEnd.isFailure = true
  failed_iff : p.phase = .errored ↔
    tables.length = 0 ∧ next.any StageEnd.isFailure = true
  cancelled : p.phase ≠ .settled → p.phase ≠ .errored →
    p.phase = .cancelled ∧ p.error = none
  failure : p.phase = .errored → ∃ text : String, p.error = some text ∧
    renderings = [.failure load.request.breakdown.id text]
  tables_only : p.phase ≠ .errored → renderings = tables.map .table
  rendered_iff : p.rendered = true ↔ 0 < tables.length
  sampleRate : 0 < tables.length → p.sampleRate =
    load.request.stages[tables.length - 1]?.map (·.rate)

theorem sampleRates_of_shows {stages : List SamplingStage}
    {tables : List BreakdownTable} (hshows : List.Forall₂ load.Shows stages tables) :
    tables.map (·.sampleRate) = stages.map (·.rate.value) := by
  induction hshows with
  | nil => rfl
  | cons hshows _ ih => rw [List.map_cons, List.map_cons, hshows.sampleRate, ih]

theorem standing_of_outcome {ends : List StageEnd} {p : Progress}
    {renderings : List Rendering} {rate : Option Number}
    (houtcome : Outcome load load.request.stages false rate ends p renderings) :
    load.Standing (shownTables ends) ends[(shownTables ends).length]? p
      renderings := by
  obtain ⟨hle, hcomplete, hshows, hrendered, hrate, tail, hrenderings,
    hverdict⟩ := houtcome
  subst hrenderings
  generalize ends[(shownTables ends).length]? = next at hcomplete hverdict ⊢
  generalize shownTables ends = tables at *
  have hrates := sampleRates_of_shows hshows
  have hlast : 0 < tables.length → p.sampleRate =
      load.request.stages[tables.length - 1]?.map (·.rate) := by
    intro hpos
    have hlength : tables.length - 1 < load.request.stages.length := by omega
    rw [hrate, List.getLast?_take, if_neg (by omega),
      List.getElem?_eq_getElem hlength]
    rfl
  have hshown : p.rendered = true ↔ 0 < tables.length := by simp [hrendered]
  cases hverdict with
  | complete phase error =>
      have hall := hcomplete.mpr rfl
      refine ⟨hle, hshows, hrates, ?_, ?_, ?_, ?_, ?_, ?_, hshown, hlast⟩
      all_goals simp [phase, error, hall]
  | kept shown failure phase error =>
      have hpos := hshown.mp shown
      have hnot : tables.length ≠ load.request.stages.length := by
        simp [hcomplete]
      have hlt : tables.length < load.request.stages.length := by omega
      refine ⟨hle, hshows, hrates, ?_, ?_, ?_, ?_, ?_, ?_, hshown, hlast⟩
      all_goals simp [phase, error, hnot]
      · simp [StageEnd.isFailure, failure, hlt]
        omega
      · intro hempty
        simp [hempty] at hpos
  | failed shown failure phase error =>
      have hempty : tables = [] := by simpa [shown] using hshown
      subst hempty
      have hstages : load.request.stages ≠ [] := by
        intro hstages
        simp [hstages] at hcomplete
      refine ⟨hle, hshows, hrates, ?_, ?_, ?_, ?_, ?_, ?_, hshown, hlast⟩
      all_goals simp [phase, error, StageEnd.isFailure, failure]
      exact fun hlength => hstages (List.length_eq_zero_iff.mp hlength.symm)
  | cancelled quiet phase error =>
      have hnot : tables.length ≠ load.request.stages.length := by
        simp [hcomplete]
      refine ⟨hle, hshows, hrates, ?_, ?_, ?_, ?_, ?_, ?_, hshown, hlast⟩
      all_goals simp [phase, error, quiet, hnot]

theorem ended_of_remaining_le {step : LoadStep} {replies : List Reply}
    (hle : step.load.remaining ≤ replies.length) :
    (step.run replies).load.point = .ended := by
  induction replies generalizing step with
  | nil =>
      obtain ⟨⟨request, filters, point⟩, progress, renderings, query⟩ := step
      cases point with
      | ended => rfl
      | main place => simp [remaining] at hle
      | backfill place found => simp [remaining] at hle
  | cons reply rest ih =>
      rw [LoadStep.run_cons]
      apply ih
      by_cases hpoint : step.load.point = .ended
      · have hafter : (step.after reply).load = step.load := by
          simp [LoadStep.after, resume, hpoint]
        simp [hafter, remaining, hpoint]
      · have hlt := remaining_resume_lt step.load reply.modes step.progress
          reply.current reply.outcome hpoint
        have hafter : (step.after reply).load = (step.load.resume reply.modes
          step.progress reply.current reply.outcome).load := rfl
        rw [hafter]
        rw [List.length_cons] at hle
        omega

theorem remaining_startUnless_le (fault : Option Fault) (request : LoadRequest)
    (filters : List Filter) :
    (startUnless fault request filters modes progress current).load.remaining ≤
      2 * request.stages.length := by
  unfold startUnless
  dsimp only
  split
  · rw [remaining_fail]
    exact Nat.zero_le _
  · exact remaining_enterStage_le ..

/-- Every load ends, and what its record says at the end is what it has shown. -/
theorem run_standing (fault : Option Fault) (request : LoadRequest)
    (filters : List Filter) (modes : CountingModes) (progress : Progress)
    (current : Bool) (replies : List Reply) :
    let load : Load := { request, filters, point := .ended }
    let final := (startUnless fault request filters modes progress.begin
      current).run replies
    let ends := load.stageEnds fault modes current 0 request.stages replies
    (2 * request.stages.length ≤ replies.length → final.load.point = .ended) ∧
      (final.load.point = .ended →
        load.Standing (shownTables ends) ends[(shownTables ends).length]?
          final.progress final.renderings) := by
  intro load final ends
  constructor
  · intro hlength
    exact ended_of_remaining_le
      (Nat.le_trans (remaining_startUnless_le fault request filters) hlength)
  · intro hended
    have herror : progress.begin.error = none := rfl
    exact standing_of_outcome (outcome_startUnless herror hended)

end Load

end RequestBreakdown
