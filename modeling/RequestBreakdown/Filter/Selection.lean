import RequestBreakdown.Filter.Basic

/-!
# The filters in effect

The ordered list of filters that a session has set.  At most one filter stands
for a column and the text of a value; setting it again moves it to the end.
-/

namespace RequestBreakdown

structure FilterSelection where
  /-- The breakdowns that say how a column is tested. -/
  breakdowns : List Breakdown := Breakdown.all
  filters : List Filter := []
  deriving DecidableEq, Repr

namespace FilterSelection

/-- Whether the filter stands for the column and the text of the value. -/
def stands (column value : Value) (f : Filter) : Bool :=
  f.isOn column && f.value.display == value.display

/-- A filter that has its final form comes last. -/
def push (s : FilterSelection) (f : Filter) : FilterSelection := { s with filters := s.filters ++ [f] }

def removeValue (s : FilterSelection) (column value : Value) : FilterSelection :=
  { s with filters := s.filters.filter fun f => !stands column value f }

def clearColumn (s : FilterSelection) (column : Value) : FilterSelection :=
  { s with filters := Filter.notOn column s.filters }

def clear (s : FilterSelection) : FilterSelection := { s with filters := [] }

def forColumn (s : FilterSelection) (column : Value) : List Filter :=
  s.filters.filter (·.isOn column)

def makeFilter (s : FilterSelection) (column value exclude : Value) : Except Fault Filter :=
  Filter.ofColumn s.breakdowns column value exclude

/-- The old filter for the column and value goes; the new one comes last, unless
its value cannot be brought to the form that is tested. -/
def add (s : FilterSelection) (column value exclude : Value) :
    FilterSelection × Except Fault Filter :=
  let rest := s.removeValue column value
  match s.makeFilter column value exclude with
  | .ok f => (rest.push f, .ok f)
  | .error fault => (rest, .error fault)

/-- The filter at a position goes; positions below zero count from the end. -/
def remove (s : FilterSelection) (position : Int) : Except Fault FilterSelection :=
  let index := if position < 0 then position + s.filters.length else position
  if 0 ≤ index ∧ index < s.filters.length then
    .ok { s with filters := s.filters.eraseIdx index.toNat }
  else .error .indexOutOfRange

/-- A filter for a named column is added, from the name and the value. -/
def addNamed (topN : Value) (exclude : Bool) (s : FilterSelection) (pair : Value) :
    Except Fault FilterSelection := do
  let (name, value) ← pair.asPair
  let (s, outcome) := s.add (← Breakdown.columnOfName name topN) value (.flag exclude)
  outcome.map fun _ => s

/-- The filters for named columns, those that keep before those that drop. -/
def ofNames (includes excludes : List Value) (topN : Value) : Except Fault FilterSelection := do
  excludes.foldlM (addNamed topN true) (← includes.foldlM (addNamed topN false) {})

end FilterSelection

end RequestBreakdown
