import RequestBreakdown.Breakdown.Catalog

/-!
# Filters

A filter keeps or drops the requests with one value of a column.  What a
statement tests may be another column and another form of the value, when the
column belongs to a breakdown that says so.
-/

namespace RequestBreakdown

structure Filter where
  /-- The column that the filter was set on. -/
  column : Value
  value : Value
  /-- Whether the requests are dropped: whatever does not count as absent says so. -/
  exclude : Value := .flag false
  /-- The column that is tested instead, unless it counts as absent. -/
  filterColumn : Value := .null
  /-- The value that is tested for instead, unless it is null. -/
  filterValue : Value := .null
  filterOperator : Value := "="
  deriving DecidableEq, Repr

namespace Filter

def excludes (f : Filter) : Bool := f.exclude.isPresent

def sqlColumn (f : Filter) : Value := f.filterColumn.orElse f.column

def sqlValue (f : Filter) : Value := if f.filterValue = .null then f.value else f.filterValue

def isOn (f : Filter) (column : Value) : Bool := f.column.same column

def notOn (column : Value) (filters : List Filter) : List Filter :=
  filters.filter fun f => !f.isOn column

/-- A filter on a column with a value, as the breakdown or the catalog field of
the column wants it tested. -/
def ofColumn (breakdowns : List Breakdown) (column value exclude : Value) : Except Fault Filter :=
  let found := Breakdown.find? column breakdowns
  match found, found.bind (·.filterColumn.present?) with
  | some b, some filterColumn => do
    let filterValue ← match b.valueTransform with
      | some transform => transform.apply value
      | none => pure value
    return { column, value, exclude, filterColumn, filterValue, filterOperator := b.filterOperator }
  | _, _ =>
    match (column.text?.bind LogColumn.ofExpression?).bind (·.transform) with
    | some transform => .ok { column, value, exclude, filterValue := transform.apply value }
    | none => .ok { column, value, exclude }

end Filter

end RequestBreakdown
