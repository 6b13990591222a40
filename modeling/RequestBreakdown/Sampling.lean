import RequestBreakdown.Value.Text
import RequestBreakdown.Value.Use

/-!
# Sampling

A breakdown is queried at one or more sampling rates, coarse to fine.  How fine
the data still is depends on its age; only breakdowns with many values, over
more than an hour, are worth a coarse first answer.
-/

namespace RequestBreakdown

def hourMillis : Nat := 60 * 60 * 1000

def weekMillis : Nat := 7 * 24 * 60 * 60 * 1000

inductive SamplingMode where
  /-- Tables that hold a sample each. -/
  | tables
  /-- A sample taken by the query. -/
  | clause
  deriving DecidableEq, Repr

namespace SamplingMode

def ofText? : String → Option SamplingMode
  | "tables" => some .tables
  | "clause" => some .clause
  | _ => none

def text : SamplingMode → String
  | .tables => "tables"
  | .clause => "clause"

def read (text : String) : Except Fault SamplingMode :=
  match ofText? text with
  | some mode => .ok mode
  | none => .error (.input (.unknownSamplingMode text))

/-- The mode of a value as it is given; none but a text names a mode. -/
def ofValue (value : Value) : Except Fault SamplingMode := read value.display

end SamplingMode

namespace SampleRate

def full : Binary64 := Binary64.ofInt 1

def tenth : Binary64 := Binary64.ofIntRatio 1 10

def hundredth : Binary64 := Binary64.ofIntRatio 1 100

/-- The rates that samples are kept for, coarsest first. -/
def ladder : List Binary64 := [hundredth, tenth, full]

/-- The ending of the table that holds the sample of a rate. -/
def tableSuffixes : List (Binary64 × String) :=
  [(full, ""), (tenth, "_sampled_10"), (hundredth, "_sampled_1")]

def tableSuffix? (rate : Number) : Option String :=
  (tableSuffixes.find? fun entry => (Number.real entry.1).eqv rate).map (·.2)

/-- One row in how many is kept. -/
def multiplier (rate : Number) : Except Fault Int := do
  (Number.real (← (Number.int 1).div rate)).round

/-- The rate in percent, with at most six digits. -/
def percentText (rate : Number) : Except Fault String :=
  (rate.times 100).toBinary64.map (·.compactText)

/-- The finest rate still kept for data of an age in milliseconds. -/
def ceiling (age : Number) : Binary64 :=
  if (Number.ofNat (20 * weekMillis)).le age then hundredth
  else if (Number.ofNat (2 * weekMillis)).le age then tenth
  else full

/-- The lowest of the rates shown; one when nothing is shown. -/
def lowest : List Number → Number
  | [] => .real full
  | rate :: rates => rates.foldl (fun low rate => if rate.lt low then rate else low) rate

/-- The lowest of some values, which need not be numbers. -/
def lowestOf : List Value → Except Fault Value
  | [] => .ok (.real full)
  | value :: values =>
    values.foldlM (fun low value => do return if ← value.lt low then value else low) value

end SampleRate

/-- One query at one rate. -/
structure SamplingStage where
  rate : Number
  /-- What a count is multiplied with. -/
  multiplier : Int
  /-- The table that is queried. -/
  source : Value
  clause : String := ""
  deriving DecidableEq, Repr

namespace SamplingStage

def whole (table : Value) : SamplingStage := { rate := .real SampleRate.full, multiplier := 1, source := table }

def sourceText (s : SamplingStage) : String := s.source.display

def isSampled (s : SamplingStage) : Bool := s.rate.lt (.int 1)

end SamplingStage

structure SamplingPlanner where
  mode : SamplingMode := .tables
  /-- The table with all requests, as it is given. -/
  baseTable : Value := .text "requests"
  deriving DecidableEq, Repr

namespace SamplingPlanner

/-- The name of a table as the front of other names; only a text can be that. -/
def nameOf (table : Value) : Except Fault String :=
  match table with
  | .text name => .ok name
  | other => .error (.operand (.notJoined other.kindName))

def stage (p : SamplingPlanner) (rate : Number) : Except Fault SamplingStage := do
  let multiplier ← SampleRate.multiplier rate
  match p.mode with
  | .tables =>
    match SampleRate.tableSuffix? rate with
    | some ending => return { rate, multiplier, source := (← nameOf p.baseTable) ++ ending }
    | none => throw (.missingTier rate.text)
  | .clause =>
    if (Number.int 1).le rate then return { rate, multiplier, source := p.baseTable }
    return { rate, multiplier, source := p.baseTable
             clause := "TABLESAMPLE " ++ (← SampleRate.percentText rate) ++ "%" }

def rates (highCardinality : Bool) (period : Number) (age : Option Number) : List Binary64 :=
  let ceiling := SampleRate.ceiling (age.getD period)
  if !highCardinality || period.le (.ofNat hourMillis) then [ceiling]
  else SampleRate.ladder.filter (·.le ceiling)

/-- The stages for a period and an age of the data, both in milliseconds.
Without an age the data is as old as the period is long. -/
def plan (p : SamplingPlanner) (highCardinality : Bool) (period : Number) (age : Option Number) :
    Except Fault (List SamplingStage) :=
  (rates highCardinality period age).mapM fun rate => p.stage (.real rate)

/-- The plan for a period and an age as they are given.  A breakdown with few values does
not need to know the period. -/
def planOf (p : SamplingPlanner) (highCardinality : Bool) (period age : Value) :
    Except Fault (List SamplingStage) := do
  let known ← (if age = .null then period else age).asNumber
  let period ← if highCardinality then period.asNumber else pure known
  p.plan highCardinality period (some known)

/-- The tables of the samples, with one row in how many they keep. -/
def tierTables (baseTable : String) : List (String × Nat) :=
  SampleRate.tableSuffixes.filterMap fun (rate, ending) =>
    if rate.lt SampleRate.full then
      match SampleRate.multiplier (.real rate) with
      | .ok n => some (baseTable ++ ending, n.toNat)
      | .error _ => none
    else none

end SamplingPlanner

end RequestBreakdown
