import RequestBreakdown.Load.Request
import RequestBreakdown.Result.Ranking

/-!
# Backfill

A value that a filter names is shown even when it is not among the largest
groups.  The values that a result lacks are looked up by a query of their own,
and the rows found are added behind the result, marked as filtered values.
-/

namespace RequestBreakdown

namespace Backfill

def containsGroup (rows : List Row) (text : String) : Bool := rows.any (Rows.groupText · == text)

/-- The filters on the shown column whose values a result lacks. -/
def missingFilters (r : LoadRequest) (filters : List Filter) (rows : List Row) : List Filter :=
  filters.filter fun f =>
    f.isOn r.column && f.value.display != "" && !containsGroup rows f.value.display

def searchColumn (r : LoadRequest) : Value :=
  if r.decomposed then r.column else r.breakdown.filterColumn.orElse r.column

def searchValue (column : Value) (f : Filter) : Value :=
  if f.sqlColumn.same column then f.sqlValue else f.value

/-- Values in order, without those equal to an earlier one. -/
def distinct (values : List Value) : List Value :=
  values.foldl (fun found value => if found.any value.same then found else found ++ [value]) []

def searchValues (column : Value) (missing : List Filter) : List Value :=
  distinct (missing.map (searchValue column))

/-- The query for the values that a result lacks, unless it lacks none. -/
def query? (r : LoadRequest) (modes : CountingModes) (stage : SamplingStage) (filters : List Filter)
    (rows : List Row) : Option String :=
  match missingFilters r filters rows with
  | [] => none
  | missing =>
    let column := searchColumn r
    (Query.lookup r.column.display column.display (searchValues column missing) (r.aggregations modes stage) stage
      r.condition).toOption

def markerColumn : String := "is_filtered_value"

/-- The rows found that a result lacks, marked. -/
def extraRows (rows found : List Row) : List Row :=
  (found.filter fun row => !containsGroup rows (Rows.groupText row)).map
    (·.set markerColumn (.flag true))

end Backfill

end RequestBreakdown
