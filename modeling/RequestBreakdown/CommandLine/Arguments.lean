import RequestBreakdown.Settings
import RequestBreakdown.Text.Quoted
import RequestBreakdown.Time.Window

/-!
# Arguments

The options of the command line, what they set, and what can be wrong with them.
Two dashes are no value: an option that they are given to is set, but to nothing.
-/

namespace RequestBreakdown

inductive OptionKey where
  | help
  | dataDirectory
  | database
  | table
  | noMaterialize
  | range
  | start
  | stop
  | now
  | filter
  | exclude
  | breakdown
  | topN
  | bytes
  | listBreakdowns
  | listColumns
  | samplingMode
  | concurrency
  | threads
  | format
  | debug
  | debugLog
  | version
  deriving DecidableEq, Repr

namespace OptionKey

/-- The options with their names, in the order in which they are listed. -/
def all : List (OptionKey × List String) := [
  (help, ["-h", "--help"]),
  (dataDirectory, ["-d", "--datadir"]),
  (database, ["--database"]),
  (table, ["--table"]),
  (noMaterialize, ["--no-materialize"]),
  (range, ["-r", "--range"]),
  (start, ["--from"]),
  (stop, ["--to"]),
  (now, ["--now"]),
  (filter, ["-f", "--filter"]),
  (exclude, ["-x", "--exclude"]),
  (breakdown, ["--facet"]),
  (topN, ["-n", "--top-n"]),
  (bytes, ["--bytes"]),
  (listBreakdowns, ["--list-facets"]),
  (listColumns, ["--list-columns"]),
  (samplingMode, ["--sampling-mode"]),
  (concurrency, ["--concurrency"]),
  (threads, ["--duckdb-threads"]),
  (format, ["--format"]),
  (debug, ["--debug"]),
  (debugLog, ["--debuglog"]),
  (version, ["--version"])]

def names (key : OptionKey) : List String := (all.lookup key).getD []

/-- The short name of the only option with one that takes no value. -/
def shortHelp : String := "-h"

def byName : List (String × OptionKey) :=
  all.flatMap fun (key, names) => names.map fun name => (name, key)

def ofName? (name : String) : Option OptionKey := byName.lookup name

def takesValue : OptionKey → Bool
  | .help | .noMaterialize | .bytes | .listBreakdowns | .listColumns | .debug | .version => false
  | _ => true

end OptionKey

/-- Why a text is no filter. -/
inductive FilterTextFault where
  | noEquals (given : Value)
  | emptyColumn (text : String)
  deriving DecidableEq, Repr

def FilterTextFault.message : FilterTextFault → String
  | .noEquals given => "Filter must look like column=value: " ++ given.quoted
  | .emptyColumn text => "Filter has an empty column: " ++ Text.quoted text

/-- What is wrong with the value of an option. -/
inductive ValueFault where
  | missing
  | notWanted (text : String)
  | notAnInteger (text : String)
  | notAChoice (shown : String) (choices : List String)
  | notAFilter (fault : FilterTextFault)
  deriving DecidableEq, Repr

def ValueFault.message : ValueFault → String
  | .missing => "expected one argument"
  | .notWanted text => "ignored explicit argument " ++ Text.quoted text
  | .notAnInteger text => "invalid int value: " ++ Text.quoted text
  | .notAChoice shown choices =>
    "invalid choice: " ++ shown ++ " (choose from " ++ ", ".intercalate choices ++ ")"
  | .notAFilter fault => fault.message

/-- What is wrong with the arguments. -/
inductive UsageFault where
  | option (key : OptionKey) (fault : ValueFault)
  | ambiguous (text : String) (candidates : List String)
  | unrecognized (arguments : List String)
  deriving DecidableEq, Repr

def UsageFault.message : UsageFault → String
  | .option key fault => "argument " ++ "/".intercalate key.names ++ ": " ++ fault.message
  | .ambiguous text candidates =>
    "ambiguous option: " ++ text ++ " could match " ++ ", ".intercalate candidates
  | .unrecognized arguments => "unrecognized arguments: " ++ " ".intercalate arguments

def voidMark : String := "--"

def voidValue : Value := .list []

structure Arguments where
  dataDirectory : Value := .null
  database : Value := .text memoryDatabase
  table : Value := .text "requests"
  materialize : Bool := true
  range : Value := .text defaultTimeRange
  start : Value := .null
  stop : Value := .null
  now : Value := .null
  /-- The filters that keep, each a column and a value. -/
  includes : List Value := []
  excludes : List Value := []
  breakdowns : List Value := []
  topN : Value := .int defaultTopN
  countsBytes : Bool := false
  listsBreakdowns : Bool := false
  listsColumns : Bool := false
  samplingMode : Value := .text SamplingMode.tables.text
  concurrency : Value := .int 4
  threads : Value := .null
  format : Value := .text "simple"
  debug : Bool := false
  debugLog : Value := .null
  deriving DecidableEq, Repr

/-- A filter as it is written, `column=value`; the value goes to the end. -/
def readFilterText (text : String) : Except FilterTextFault (String × String) :=
  let cs := text.toList
  match cs.dropWhile (· != '=') with
  | [] => .error (.noEquals text)
  | _ :: value =>
    let column := Text.trim (String.ofList (cs.takeWhile (· != '=')))
    if column = "" then .error (.emptyColumn text) else .ok (column, String.ofList value)

/-- A filter as it is given.  What is no text may lack the equals sign, and is nothing else. -/
def readFilterValue (given : Value) : Except Fault (Except FilterTextFault (String × String)) :=
  match given with
  | .text text => .ok (readFilterText text)
  | given =>
    if given.lacks "=" then .ok (.error (.noEquals given)) else .error (.operand .unsuitable)

namespace Arguments

/-- What an option is set to by a text that is read in its own way. -/
def readValue (read : String → Except ValueFault Value) (text : String) : Except ValueFault Value :=
  if text = voidMark then .ok voidValue else read text

def readText : String → Except ValueFault Value := readValue fun text => .ok (.text text)

def readInt (text : String) : Except ValueFault Int :=
  match Text.readInt? text with
  | some i => .ok i
  | none => .error (.notAnInteger text)

def readCount : String → Except ValueFault Value := readValue fun text => (readInt text).map .int

def readTopN : String → Except ValueFault Value := readValue fun text => do
  let n ← readInt text
  if topNOptions.contains n then return .int n
  throw (.notAChoice (toString n) (topNOptions.map toString))

def samplingModes : List String := [SamplingMode.tables.text, SamplingMode.clause.text]

def readSamplingMode : String → Except ValueFault Value := readValue fun text =>
  if samplingModes.contains text then .ok (.text text)
  else .error (.notAChoice (Text.quoted text) (samplingModes.map Text.quoted))

def readFilter : String → Except ValueFault Value := readValue fun text =>
  match readFilterText text with
  | .ok (column, value) => .ok (.list [.text column, .text value])
  | .error fault => .error (.notAFilter fault)

/-- An option takes effect; one without a value ignores the text. -/
def set (a : Arguments) (key : OptionKey) (text : String) : Except ValueFault Arguments := do
  match key with
  | .help | .version => return a
  | .dataDirectory => return { a with dataDirectory := ← readText text }
  | .database => return { a with database := ← readText text }
  | .table => return { a with table := ← readText text }
  | .noMaterialize => return { a with materialize := false }
  | .range => return { a with range := ← readText text }
  | .start => return { a with start := ← readText text }
  | .stop => return { a with stop := ← readText text }
  | .now => return { a with now := ← readText text }
  | .filter => return { a with includes := a.includes ++ [← readFilter text] }
  | .exclude => return { a with excludes := a.excludes ++ [← readFilter text] }
  | .breakdown => return { a with breakdowns := a.breakdowns ++ [← readText text] }
  | .topN => return { a with topN := ← readTopN text }
  | .bytes => return { a with countsBytes := true }
  | .listBreakdowns => return { a with listsBreakdowns := true }
  | .listColumns => return { a with listsColumns := true }
  | .samplingMode => return { a with samplingMode := ← readSamplingMode text }
  | .concurrency => return { a with concurrency := ← readCount text }
  | .threads => return { a with threads := ← readCount text }
  | .format => return { a with format := ← readText text }
  | .debug => return { a with debug := true }
  | .debugLog => return { a with debugLog := ← readText text }

def ofSettings (input : SettingsInput) : Arguments where
  dataDirectory := input.dataDirectory
  database := input.database
  table := input.table
  topN := input.topN
  samplingMode := input.samplingMode
  concurrency := input.maxConcurrent
  threads := input.threads

/-- The arguments that hold when none is given: the settings of the environment,
which must be good. -/
def ofEnvironment (env : Environment) : Except Fault Arguments := do
  let settings := SettingsInput.ofEnvironment env
  discard settings.check
  return ofSettings settings

def settings (a : Arguments) : Except Fault Settings :=
  SettingsInput.check {
    dataDirectory := a.dataDirectory, database := a.database, table := a.table
    maxConcurrent := a.concurrency, topN := a.topN, samplingMode := a.samplingMode
    threads := a.threads }

end Arguments

end RequestBreakdown
