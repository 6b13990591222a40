import RequestBreakdown.Breakdown.Catalog
import RequestBreakdown.Sampling
import RequestBreakdown.Text.Blank
import RequestBreakdown.Text.Numeral

/-!
# Settings

What a run depends on: where the data is, how many rows and how many queries at
a time are wanted, and how samples are taken.  Settings come from environment
variables or from the caller, and are checked once.
-/

namespace RequestBreakdown

/-- Settings as they are given; nobody has checked them. -/
structure SettingsInput where
  dataDirectory : Value := .null
  database : Value := .text ":memory:"
  table : Value := .text "requests"
  maxConcurrent : Value := .int 4
  topN : Value := .int defaultTopN
  samplingMode : Value := .text "tables"
  threads : Value := .null
  deriving DecidableEq, Repr

structure Settings where
  dataDirectory : Value := .null
  database : Value := .text ":memory:"
  table : Value := .text "requests"
  maxConcurrent : Number := .int 4
  topN : Value := .int defaultTopN
  samplingMode : SamplingMode := .tables
  threads : Value := .null
  /-- At least one query may run. -/
  not_below_one : maxConcurrent.lt (.int 1) = false := by decide
  deriving DecidableEq, Repr

def Settings.byName (s : Settings) : List (String × Value) := [
  ("datadir", s.dataDirectory), ("database", s.database), ("table", s.table),
  ("max_concurrent", s.maxConcurrent.value), ("top_n", s.topN),
  ("sampling_mode", s.samplingMode.text), ("duckdb_threads", s.threads)]

/-- Variables by name; a variable that is not listed is not set. -/
abbrev Environment := List (String × String)

def settingVariables : List String := [
  "LOGFACETS_DATADIR", "LOGFACETS_DATABASE", "LOGFACETS_TABLE", "LOGFACETS_CONCURRENCY",
  "LOGFACETS_TOP_N", "LOGFACETS_SAMPLING_MODE", "LOGFACETS_DUCKDB_THREADS"]

/-- The database that lives as long as the run. -/
def memoryDatabase : String := ":memory:"

namespace SettingsInput

/-- An integer variable. One that is unset, blank or no integer has the default. -/
def intVariable (env : Environment) (name : String) (default : Option Int) : Option Int :=
  match env.lookup name with
  | none => default
  | some text => if Text.trim text = "" then default else (Text.readInt? text).orElse fun _ => default

/-- A text variable, null where it is unset. -/
def textVariable (env : Environment) (name : String) : Value :=
  ((env.lookup name).map Value.text).getD .null

def ofEnvironment (env : Environment) : SettingsInput where
  dataDirectory := textVariable env "LOGFACETS_DATADIR"
  database := .text ((env.lookup "LOGFACETS_DATABASE").getD memoryDatabase)
  table := .text ((env.lookup "LOGFACETS_TABLE").getD "requests")
  maxConcurrent := .int ((intVariable env "LOGFACETS_CONCURRENCY" (some 4)).getD 4)
  topN := .int ((intVariable env "LOGFACETS_TOP_N" (some defaultTopN)).getD defaultTopN)
  samplingMode := .text ((env.lookup "LOGFACETS_SAMPLING_MODE").getD SamplingMode.tables.text)
  threads := ((intVariable env "LOGFACETS_DUCKDB_THREADS" none).map Value.int).getD .null

def set (input : SettingsInput) (name : String) (value : Value) : Except Fault SettingsInput :=
  match name with
  | "datadir" => .ok { input with dataDirectory := value }
  | "database" => .ok { input with database := value }
  | "table" => .ok { input with table := value }
  | "max_concurrent" => .ok { input with maxConcurrent := value }
  | "top_n" => .ok { input with topN := value }
  | "sampling_mode" => .ok { input with samplingMode := value }
  | "duckdb_threads" => .ok { input with threads := value }
  | _ => .error (.operand .unsuitable)

def setAll (input : SettingsInput) (settings : List (String × Value)) : Except Fault SettingsInput :=
  settings.foldlM (fun input (name, value) => input.set name value) input

/-- Settings are good when the sampling mode exists and at least one query may run. -/
def check (input : SettingsInput) : Except Fault Settings := do
  let samplingMode ← SamplingMode.ofValue input.samplingMode
  let maxConcurrent ← input.maxConcurrent.asNumber
  match h : maxConcurrent.lt (.int 1) with
  | false =>
    return { dataDirectory := input.dataDirectory, database := input.database, table := input.table
             maxConcurrent, topN := input.topN, samplingMode, threads := input.threads
             not_below_one := h }
  | true => throw (.input .concurrencyTooLow)

end SettingsInput

end RequestBreakdown
