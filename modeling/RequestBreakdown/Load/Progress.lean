import RequestBreakdown.Filter.Basic
import RequestBreakdown.Row
import RequestBreakdown.Sampling

/-!
# Progress

How far the load of a breakdown has come, and what it shows on the way: the
table of each stage, or why there is none.
-/

namespace RequestBreakdown

inductive LoadPhase where
  | idle
  | running
  | settled
  | errored
  | cancelled
  deriving DecidableEq, Repr

def LoadPhase.text : LoadPhase → String
  | .idle => "idle"
  | .running => "running"
  | .settled => "settled"
  | .errored => "errored"
  | .cancelled => "cancelled"

/-- The state of the latest load of a breakdown. -/
structure Progress where
  breakdownId : Value
  phase : LoadPhase := .idle
  stageIndex : Option Nat := none
  stageCount : Nat := 0
  /-- Whether the load has shown a table. -/
  rendered : Bool := false
  sampleRate : Option Number := none
  /-- Milliseconds that the query of the shown stage took. -/
  elapsed : Option Binary64 := none
  error : Option String := none
  deriving DecidableEq, Repr

/-- The table of one stage, with what is needed to show it and to filter by it.  What a view
looks at only if it has to is kept as it is given. -/
structure BreakdownTable where
  breakdownId : Value
  rows : List Row
  totals : Value := .null
  column : Value
  elapsed : Number
  labelPrefixes : Value := .null
  summaryRatio : Value := .null
  summaryLabel : Value := .null
  isContinuous : Value := .flag false
  filterColumn : Value := .null
  valueTransform : Option ValueTransform := none
  filterOperator : Value := .null
  sampleRate : Value := .real SampleRate.full
  activeFilters : List Filter := []
  deriving DecidableEq, Repr

/-- What a load shows. -/
inductive Rendering where
  | table (t : BreakdownTable)
  | failure (breakdownId text : Value)
  deriving DecidableEq, Repr

namespace Progress

/-- A load begins: what the one before left is kept but for its error. -/
def begin (p : Progress) : Progress := { p with phase := .running, rendered := false, error := none }

/-- The first of the records with the longest query. -/
def slowest? (records : List Progress) : Option Progress :=
  records.foldl (fun best p =>
    match best.bind (·.elapsed), p.elapsed with
    | some longest, some elapsed => if longest.lt elapsed then some p else best
    | none, some _ => some p
    | _, none => best) none

/-- The lowest rate of the tables shown. -/
def sampleRateOf (records : List Progress) : Number :=
  SampleRate.lowest (records.filterMap fun p => if p.rendered then p.sampleRate else none)

end Progress

end RequestBreakdown
