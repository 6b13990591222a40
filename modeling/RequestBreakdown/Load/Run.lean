import RequestBreakdown.Load.Backfill
import RequestBreakdown.Load.Progress
import RequestBreakdown.Result.Totals

/-!
# The load of a breakdown

A load queries its stages one after the other and shows each as soon as it is
complete.  It stops at its queries, the main query of a stage and perhaps a
look-up of missing values, and goes on with their outcomes.  A load whose
activity is no longer the latest of its scope ends without showing anything; an
error is shown only while nothing else is.
-/

namespace RequestBreakdown

/-- Rows and totals as a backend gives them, with the milliseconds that the query took. -/
structure TimedResult where
  rows : Value
  totals : Value := .null
  elapsed : Binary64
  deriving DecidableEq, Repr

/-- The rows of a stage, arranged, with the totals and the time of its query. -/
structure StageResult where
  rows : List Row
  totals : Value
  elapsed : Binary64
  deriving DecidableEq, Repr

abbrev QueryOutcome := Except Fault TimedResult

/-- A stage among the stages of its request. -/
structure StagePlace where
  index : Nat
  stage : SamplingStage
  later : List SamplingStage
  deriving DecidableEq, Repr

namespace StagePlace

def isLast (place : StagePlace) : Bool := place.later.isEmpty

end StagePlace

/-- The query that a load waits for. -/
inductive LoadPoint where
  | main (place : StagePlace)
  /-- The look-up, with the result of the main query. -/
  | backfill (place : StagePlace) (found : StageResult)
  | ended
  deriving DecidableEq, Repr

structure Load where
  request : LoadRequest
  filters : List Filter
  point : LoadPoint
  deriving DecidableEq, Repr

/-- What a load does between two of its queries. -/
structure LoadStep where
  load : Load
  progress : Progress
  renderings : List Rendering := []
  /-- The next query, if the load is not over. -/
  query : Option String := none
  deriving DecidableEq, Repr

namespace Load

def finish (load : Load) (progress : Progress) (phase : LoadPhase) : LoadStep :=
  { load := { load with point := .ended }, progress := { progress with phase } }

/-- A stage has gone wrong: the tables shown so far stay, and where there is none
the fault is shown. -/
def fail (load : Load) (progress : Progress) (current : Bool) (fault : Fault) : LoadStep :=
  if fault.isCancellation || !current then load.finish progress .cancelled
  else
    let progress := { progress with error := some fault.message }
    if progress.rendered then load.finish progress .settled
    else
      { load.finish progress .errored with
        renderings := [.failure load.request.breakdown.id fault.message] }

/-- A stage begins with its main query, unless that cannot be made; after the last stage the
load has settled. -/
def enterStage (load : Load) (modes : CountingModes) (progress : Progress) (current : Bool)
    (index : Nat) : List SamplingStage → LoadStep
  | [] => load.finish progress .settled
  | stage :: later =>
    let place : StagePlace := ⟨index, stage, later⟩
    let progress := { progress with stageIndex := some index }
    match load.request.modeFault? modes with
    | some fault => load.fail progress current fault
    | none =>
      { load := { load with point := .main place }, progress
        query := some (load.request.stageQuery modes stage place.isLast) }

/-- A load begins with the first stage of its request. -/
def start (request : LoadRequest) (filters : List Filter) (modes : CountingModes)
    (progress : Progress) (current : Bool) : LoadStep :=
  enterStage { request, filters, point := .ended } modes
    { progress with stageCount := request.stages.length } current 0 request.stages

/-- A load begins, unless something goes wrong with every query that could be made. -/
def startUnless (fault : Option Fault) (request : LoadRequest) (filters : List Filter)
    (modes : CountingModes) (progress : Progress) (current : Bool) : LoadStep :=
  let step := start request filters modes progress current
  match step.query, fault with
  | some _, some fault => step.load.fail step.progress current fault
  | _, _ => step

def table (load : Load) (stage : SamplingStage) (result : StageResult)
    (summaryRatio : Option Binary64) : BreakdownTable :=
  let b := load.request.breakdown
  let decomposed := load.request.decomposed
  { breakdownId := b.id
    rows := result.rows
    totals := result.totals
    column := load.request.column
    elapsed := .real result.elapsed
    labelPrefixes := b.labelPrefixes
    summaryRatio := summaryRatio.elim .null .real
    summaryLabel := b.summaryLabel
    isContinuous := .flag load.request.isContinuous
    filterColumn := if decomposed then .null else b.filterColumn
    valueTransform := if decomposed then none else b.valueTransform
    filterOperator := if decomposed then .null else b.filterOperator
    sampleRate := stage.rate.value
    activeFilters := load.filters }

/-- The share that a breakdown with a summary shows. -/
def summaryRatio (load : Load) (result : StageResult) : Except Fault (Option Binary64) :=
  if load.request.breakdown.hasSummary then Rows.summaryRatio result.totals else .ok none

/-- A stage is complete: it is shown, and the next one begins. -/
def complete (load : Load) (modes : CountingModes) (progress : Progress) (place : StagePlace)
    (result : StageResult) : LoadStep :=
  match load.summaryRatio result with
  | .error fault => load.fail progress true fault
  | .ok ratio =>
    let progress := { progress with
      rendered := true, sampleRate := some place.stage.rate, elapsed := some result.elapsed }
    let step := load.enterStage modes progress true (place.index + 1) place.later
    { step with renderings := .table (load.table place.stage result ratio) :: step.renderings }

/-- The rows of a stage as its breakdown orders them. -/
def arrange (request : LoadRequest) (place : StagePlace) (rows : Value) : Except Fault (List Row) :=
  if request.isApproximate place.stage place.isLast then Rows.rankItems rows
  else if request.isContinuous then
    Rows.fillItems rows (.list (request.labels.map .text))
      request.breakdown.hasSummary
  else Row.listOf rows

/-- The query for values that a stage lacks; a stage with all ranges lacks none. -/
def backfillQuery? (load : Load) (modes : CountingModes) (place : StagePlace) (rows : List Row) :
    Option String :=
  if load.request.isContinuous then none
  else Backfill.query? load.request modes place.stage load.filters rows

/-- The main query of a stage has rows: they are shown, unless some are missing. -/
def receive (load : Load) (modes : CountingModes) (progress : Progress) (place : StagePlace)
    (result : TimedResult) : LoadStep :=
  match arrange load.request place result.rows with
  | .error fault => load.fail progress true fault
  | .ok rows =>
    let result : StageResult := ⟨rows, result.totals, result.elapsed⟩
    match load.backfillQuery? modes place rows, load.request.modeFault? modes with
    | none, _ => load.complete modes progress place result
    | some _, some fault => load.fail progress true fault
    | some query, none =>
      { load := { load with point := .backfill place result }, progress, query := some query }

/-- The rows of a stage with those that a look-up has found; a look-up that went
wrong has found none. -/
def withBackfill (found : StageResult) : QueryOutcome → Except Fault StageResult
  | .ok extra => do
    let extra ← Row.listOf extra.rows
    return { found with rows := found.rows ++ Backfill.extraRows found.rows extra }
  | .error _ => .ok found

def isCancelled : QueryOutcome → Bool
  | .ok _ => false
  | .error fault => fault.isCancellation

/-- A load goes on with the outcome of the query it waits for; `current` says
whether its activity is still the latest of its scope. -/
def resume (load : Load) (modes : CountingModes) (progress : Progress) (current : Bool)
    (outcome : QueryOutcome) : LoadStep :=
  match load.point with
  | .ended => { load, progress }
  | .main place =>
    match outcome with
    | .error fault => load.fail progress current fault
    | .ok result =>
      if current then load.receive modes progress place result
      else load.finish progress .cancelled
  | .backfill place found =>
    if isCancelled outcome || !current then load.finish progress .cancelled
    else
      match withBackfill found outcome with
      | .ok result => load.complete modes progress place result
      | .error fault => load.fail progress true fault

/-! ### Every load ends -/

/-- The most queries that a load can still wait for. -/
def remaining (load : Load) : Nat :=
  match load.point with
  | .main place => 2 * place.later.length + 2
  | .backfill place _ => 2 * place.later.length + 1
  | .ended => 0

theorem remaining_finish (load : Load) (progress : Progress) (phase : LoadPhase) :
    (load.finish progress phase).load.remaining = 0 := rfl

theorem remaining_fail (load : Load) (progress : Progress) (current : Bool) (fault : Fault) :
    (load.fail progress current fault).load.remaining = 0 := by
  simp only [fail]
  split
  · rfl
  · split <;> rfl

theorem remaining_enterStage_le (load : Load) (modes : CountingModes) (progress : Progress)
    (current : Bool) (index : Nat) (stages : List SamplingStage) :
    (load.enterStage modes progress current index stages).load.remaining ≤ 2 * stages.length := by
  cases stages with
  | nil => exact Nat.le_refl _
  | cons stage later =>
    simp only [enterStage]
    split
    · simp only [remaining_fail, Nat.zero_le]
    · simp only [remaining, List.length_cons]; omega

theorem remaining_complete_le (load : Load) (modes : CountingModes) (progress : Progress)
    (place : StagePlace) (result : StageResult) :
    (load.complete modes progress place result).load.remaining ≤ 2 * place.later.length := by
  simp only [complete]
  split
  · simp only [remaining_fail, Nat.zero_le]
  · exact remaining_enterStage_le ..

theorem remaining_receive_lt (load : Load) (modes : CountingModes) (progress : Progress)
    (place : StagePlace) (result : TimedResult) :
    (load.receive modes progress place result).load.remaining < 2 * place.later.length + 2 := by
  simp only [receive]
  split
  · simp only [remaining_fail]; omega
  · split
    · exact Nat.lt_of_le_of_lt (remaining_complete_le ..) (by omega)
    · simp only [remaining_fail]; omega
    · simp only [remaining]; omega

/-- Each outcome brings a load nearer to its end. -/
theorem remaining_resume_lt (load : Load) (modes : CountingModes) (progress : Progress)
    (current : Bool) (outcome : QueryOutcome) (h : load.point ≠ .ended) :
    (load.resume modes progress current outcome).load.remaining < load.remaining := by
  obtain ⟨request, filters, point⟩ := load
  cases point with
  | ended => exact absurd rfl h
  | main place =>
    simp only [resume]
    split
    · simp only [remaining_fail]; exact Nat.succ_pos _
    · split
      · exact remaining_receive_lt ..
      · simp only [remaining_finish]; exact Nat.succ_pos _
  | backfill place found =>
    simp only [resume]
    split
    · simp only [remaining_finish]; exact Nat.succ_pos _
    · split
      · exact Nat.lt_of_le_of_lt (remaining_complete_le ..) (Nat.lt_succ_self _)
      · simp only [remaining_fail]; exact Nat.succ_pos _

end Load

end RequestBreakdown
