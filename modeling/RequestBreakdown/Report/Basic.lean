import RequestBreakdown.Backend.Engine
import RequestBreakdown.Backend.Tiers
import RequestBreakdown.Cancellation.Activity
import RequestBreakdown.Console.Basic
import RequestBreakdown.Load.Run
import RequestBreakdown.Settings

/-!
# Reports

A report loads its breakdowns one after the other and prints each stage as it
comes, then a summary.  A table that cannot be shown ends the load of its
breakdown; the other breakdowns are loaded nevertheless, and the first such fault
is that of the report.
-/

namespace RequestBreakdown

structure Report where
  settings : Settings
  engine : Engine
  console : Console
  printed : List Printed := []
  /-- The records of the breakdowns loaded, in order. -/
  records : List Progress := []
  /-- The first fault of a load. -/
  fault : Option Fault := none
  deriving DecidableEq, Repr

/-- What all breakdowns of a report are loaded for. -/
structure ReportOrder where
  breakdowns : List Breakdown
  filters : List Filter
  window : TimeWindow
  modes : CountingModes := .record []
  now : Timestamp
  deriving DecidableEq, Repr

namespace Report

/-- A report on the log of a source. -/
def ofSource (settings : Settings) (format : ConsoleFormat) (source : LogSource) : Report :=
  let titles := Breakdown.all.map fun b => (b.id.display, b.title)
  { settings, engine := { source }
    console := { format, titles := .record titles, topN := settings.topN } }

def withSource {α : Type} (r : Report) (computation : SourceM α) : Report × Except Fault α :=
  let (outcome, source) := computation r.engine.source
  ({ r with engine := { r.engine with source } }, outcome)

/-! ### The data -/

/-- The log is loaded, or its table made, and the samples are taken. -/
def prepareData (settings : Settings) (materialize : Bool) : SourceM Unit := do
  if (← get).directory.isSome then discard LogSource.load else LogSource.createTable false
  if materialize && settings.samplingMode == .tables then
    LogSource.connect
    let tiers : SampleTiers := { baseTable := settings.table }
    discard (LogSource.withDatabase tiers.materializeAll)
  discard (LogSource.rowCount .null)

/-- The time right after the newest request, which so lies inside of windows. -/
def afterNewest (newest : Value) : Except Fault Timestamp :=
  match newest with
  | .time t => t.add (Duration.ofMillis 1000)
  | value => .error (.operand (.notATime value.kindName))

/-- The time that windows are relative to: the one given, else that of the newest
request, else today. -/
def referenceTime (given : Value) (today : Timestamp) : SourceM Timestamp := do
  match given.present? with
  | some given => return (← LogSource.ofOutcome (TimePoint.ofValue given today)).timestamp
  | none =>
    match ← LogSource.timeRange with
    | some (_, newest) => LogSource.ofOutcome (afterNewest newest)
    | none => return today

/-! ### The loads -/

def display (r : Report) (renderings : List Rendering) : Report × Option Fault :=
  match renderings with
  | [] => (r, none)
  | rendering :: rest =>
    let step := r.console.display rendering
    let r := { r with console := step.console, printed := r.printed ++ step.printed }
    match step.fault with
    | some fault => (r, some fault)
    | none => display r rest

/-- A query is executed, and its time taken. -/
def query (r : Report) (token : TokenId) (text : String) : Report × QueryOutcome :=
  let (engine, outcome) := r.engine.execute text (some token)
  ({ r with engine }, outcome.map fun result =>
    { rows := .list (result.rows.map (·.value)), totals := (result.totals.map (·.value)).getD .null
      elapsed := result.networkTime.getD Binary64.zero })

/-- A load goes on until it is over, or until a table cannot be shown. -/
def follow (r : Report) (token : TokenId) (modes : CountingModes) (step : LoadStep) :
    Report × Progress × Option Fault :=
  match r.display step.renderings with
  | (r, some fault) => (r, step.progress, some fault)
  | (r, none) =>
    match step.query with
    | none => (r, step.progress, none)
    | some text =>
      if h : step.load.point = .ended then (r, step.progress, none)
      else
        let (r, outcome) := r.query token text
        have := Load.remaining_resume_lt step.load modes step.progress true outcome h
        follow r token modes (step.load.resume modes step.progress true outcome)
termination_by step.load.remaining

def recordOf (r : Report) (breakdownId : Value) : Progress :=
  (r.records.find? (·.breakdownId == breakdownId)).getD { breakdownId }

/-- The record takes the place of an earlier one of its breakdown. -/
def setRecord (r : Report) (p : Progress) : Report :=
  if r.records.any (·.breakdownId == p.breakdownId) then
    { r with records := r.records.map fun q => if q.breakdownId = p.breakdownId then p else q }
  else { r with records := r.records ++ [p] }

def withFault (r : Report) (fault : Option Fault) : Report :=
  { r with fault := r.fault.orElse fun _ => fault }

/-- A breakdown is loaded for as many rows as are asked for. -/
def loadBreakdown (order : ReportOrder) (token : TokenId) (r : Report) (b : Breakdown) : Report :=
  let progress := (r.recordOf b.id).begin
  let r := r.setRecord progress
  let topN := r.settings.topN
  let planner : SamplingPlanner := { mode := r.settings.samplingMode, baseTable := r.settings.table }
  match LoadRequest.prepareFor planner order.now topN b order.filters order.window with
  | .error fault => r.withFault (some fault)
  | .ok request =>
    let step := Load.startUnless (LoadRequest.limitFault? topN) request order.filters order.modes
      progress true
    let (r, progress, fault) := r.follow token order.modes step
    (r.setRecord progress).withFault fault

/-! ### The summary -/

def summaryRows (r : Report) (window : TimeWindow) : Except Fault (List (List String)) := do
  let rate ← SampleRate.percentText (Progress.sampleRateOf r.records)
  let slowest := match Progress.slowest? r.records with
    | some p =>
      [["slowest", p.breakdownId.display ++ " (" ++ (p.elapsed.getD Binary64.zero).placesText 0 ++ "ms)"]]
    | none => []
  return [["window", window.describe], ["facets", toString r.records.length],
    ["sample rate", rate ++ "%"]] ++ slowest

def printSummary (r : Report) (window : TimeWindow) : Report :=
  match r.summaryRows window >>= TextTable.render .plain [] with
  | .ok text => { r with printed := r.printed ++ [.text (text ++ "\n")] }
  | .error fault => r.withFault (some fault)

/-- All breakdowns are loaded under one activity; the summary follows when every
table could be shown. -/
def run (r : Report) (order : ReportOrder) : Report :=
  let (registry, activity) :=
    ({ network := r.engine.network } : ActivityRegistry CursorId).startIn "facets"
  let r := { r with engine := { r.engine with network := registry.network } }
  let r := order.breakdowns.foldl (loadBreakdown order activity.token) r
  match r.fault with
  | none => r.printSummary order.window
  | some _ => r

end Report

end RequestBreakdown
