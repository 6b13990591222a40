import RequestBreakdown.CommandLine.Parse
import RequestBreakdown.Filter.Selection
import RequestBreakdown.Report.Basic

/-!
# The command line

What a command prints, how it ends and what it asks of the database.  Mistakes of
the user are reported in one line; all other faults are left to the caller.
-/

namespace RequestBreakdown

inductive CommandEnding where
  | exit (code : Nat)
  | usage (fault : UsageFault)
  | fault (fault : Fault)
  deriving DecidableEq, Repr

structure CommandOutcome where
  ending : CommandEnding
  printed : List Printed := []
  errors : List String := []
  events : List DatabaseEvent := []
  deriving DecidableEq, Repr

namespace CommandOutcome

def output (o : CommandOutcome) : String := Printed.plainTexts o.printed

def errorOutput (o : CommandOutcome) : String := String.join (o.errors.map (· ++ "\n"))

/-- The statements sent to the database, but for those of batches. -/
def statements (o : CommandOutcome) : List String :=
  o.events.filterMap fun
    | .statement sql _ => some sql
    | _ => none

end CommandOutcome

/-- What surrounds a command: variables, files, the database, and today's time. -/
structure CommandContext where
  environment : Environment := []
  storage : Storage := {}
  db : Database := {}
  today : Timestamp
  deriving DecidableEq, Repr

namespace CommandLine

def programName : String := "logfacets"

def versionText : String := programName ++ " 0.1.0\n"

def helpText : String := "usage: " ++ programName ++ " [options]\n"

def printing (text : String) : CommandOutcome := { ending := .exit 0, printed := [.text text] }

def failure (lines : List String) : CommandOutcome := { ending := .exit 1, errors := lines }

def errorLine (message : String) : String := "Error: " ++ message

/-! ### Listings -/

def listing (headers : List String) (rows : List (List String)) : CommandOutcome :=
  match TextTable.render .simple headers rows with
  | .ok text => printing (text ++ "\n")
  | .error fault => { ending := .fault fault }

/-- The characters of a column expression that are listed. -/
def listedLength : Nat := 60

def breakdownListing : CommandOutcome :=
  listing ["facet", "title", "column", "high card."] (Breakdown.all.map fun b =>
    [b.shortName, b.title.display, String.ofList ((b.column (topNOptions.headD defaultTopN)).display.toList.take listedLength),
      if b.hasManyGroups then "yes" else ""])

def columnListing : CommandOutcome :=
  listing ["key", "log field", "label", "short", "expression"] (LogColumn.all.map fun c =>
    [c.key, c.logKey, c.label, c.shortLabel.getD "", c.expression])

/-! ### Reports -/

/-- The breakdowns of the names given, or all when none is; else the first wrong name. -/
def breakdownsOf (names : List Value) : Except Value (List Breakdown) :=
  if names.isEmpty then .ok Breakdown.all
  else names.mapM fun name =>
    match name.text?.bind Breakdown.ofName? with
    | some b => .ok b
    | none => .error name

def noDataLines : List String := [
  errorLine "Data directory not specified.",
  "Please either:",
  "  1. Set the LOGFACETS_DATADIR environment variable",
  "  2. Use the -d/--datadir command line option",
  "  3. Point --database at an existing DuckDB file"]

/-- Every switch of the breakdowns set to bytes, when bytes are wanted. -/
def modesOf (countsBytes : Bool) (breakdowns : List Breakdown) : CountingModes :=
  let toggles := breakdowns.filterMap (·.modeToggle.shown?)
  .record (if countsBytes then toggles.map fun toggle => (toggle, "bytes") else [])

def orderOf (a : Arguments) (breakdowns : List Breakdown) (now : Timestamp) :
    Except Fault ReportOrder := do
  let window ← TimeWindow.resolveValues a.range a.start a.stop now
  let filters := (← FilterSelection.ofNames a.includes a.excludes a.topN).filters
  return { breakdowns, filters, window, modes := modesOf a.countsBytes breakdowns, now }

/-- A report is prepared and run; the first fault ends it. -/
def runReport (a : Arguments) (breakdowns : List Breakdown) (today : Timestamp) (r : Report) :
    Report × Option Fault :=
  let prepared : SourceM Timestamp := do
    Report.prepareData r.settings a.materialize
    Report.referenceTime a.now today
  match r.withSource prepared with
  | (r, .error fault) => (r, some fault)
  | (r, .ok now) =>
    match orderOf a breakdowns now with
    | .error fault => (r, some fault)
    | .ok order =>
      let r := r.run order
      (r, r.fault)

/-- How a fault ends a command: one that the user can mend is reported in a line. -/
def endedBy (fault : Fault) (outcome : CommandOutcome) : CommandOutcome :=
  if fault.isInput then { outcome with ending := .exit 1, errors := [errorLine fault.message] }
  else { outcome with ending := .fault fault }

/-- How a command ends after a report. -/
def conclude (r : Report) (fault : Option Fault) : CommandOutcome :=
  let (r, _) := r.withSource LogSource.close
  let outcome : CommandOutcome :=
    { ending := .exit 0, printed := r.printed, events := r.engine.source.db.events }
  match fault with
  | none => outcome
  | some fault => endedBy fault outcome

def report (c : CommandContext) (a : Arguments) (settings : Settings) (breakdowns : List Breakdown) :
    CommandOutcome :=
  let source : LogSource :=
    { database := settings.database, table := settings.table, threads := settings.threads
      storage := c.storage, db := c.db }
  match source.inDirectory settings.dataDirectory with
  | .error fault => endedBy fault (failure [])
  | .ok source =>
    let r := Report.ofSource settings (.ofValue a.format) source
    let (r, fault) := runReport a breakdowns c.today r
    conclude r fault

def runArguments (c : CommandContext) (a : Arguments) : CommandOutcome :=
  if a.listsBreakdowns then breakdownListing
  else if a.listsColumns then columnListing
  else
    match breakdownsOf a.breakdowns with
    | .error name => failure [errorLine ("unknown facet: " ++ name.display)]
    | .ok breakdowns =>
      match a.settings with
      | .error fault => endedBy fault (failure [])
      | .ok settings =>
        if !settings.dataDirectory.isPresent && settings.database == .text memoryDatabase then
          failure noDataLines
        else report c a settings breakdowns

def run (c : CommandContext) (texts : List String) : CommandOutcome :=
  match Arguments.ofEnvironment c.environment with
  | .error fault => { ending := .fault fault }
  | .ok defaults =>
    match defaults.parse texts with
    | .error fault => { ending := .usage fault }
    | .ok .showVersion => printing versionText
    | .ok .showHelp => printing helpText
    | .ok (.run a) => runArguments c a

end CommandLine

end RequestBreakdown
