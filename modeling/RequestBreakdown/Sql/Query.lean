import RequestBreakdown.LogColumn
import RequestBreakdown.Sampling
import RequestBreakdown.Sql.Fragment
import RequestBreakdown.Sql.Literal

/-!
# Breakdown queries

The statements that a breakdown is queried with: the largest groups with a row
of totals, the same over ranges of a raw column, an approximate form for
columns with many values, and the look-up of single values.
-/

namespace RequestBreakdown

/-- One output column: its name, its expression, and the function that rolls it
up into the totals. -/
structure Aggregation where
  name : String
  expression : String
  rollup : String := "SUM"
  deriving DecidableEq, Repr

namespace Aggregation

def statusClasses : List (String × String) := [
  ("cnt_ok", "status < 400"),
  ("cnt_4xx", "status >= 400 AND status < 500"),
  ("cnt_5xx", "status >= 500")]

/-- Requests or bytes, of all rows or of those that a condition selects, scaled
up from a sample. -/
def measure (multiplier : Value) (bytesMode : Bool) (condition : Option String) : String :=
  let restriction := match condition with
    | some condition => " FILTER (WHERE " ++ condition ++ ")"
    | none => ""
  let amount :=
    if bytesMode then "COALESCE(SUM(" ++ contentLengthColumn ++ ")" ++ restriction ++ ", 0)"
    else "COUNT(*)" ++ restriction
  if multiplier.same (.int 1) then amount else amount ++ " * " ++ multiplier.display

/-- The columns of a breakdown: the count, the counts by status, and the count
of the rows that the summary is about. -/
def forBreakdown (multiplier : Value) (bytesMode : Bool) (summaryPredicate : Option String) :
    List Aggregation :=
  let measure := measure multiplier bytesMode
  [⟨"cnt", measure none, "SUM"⟩]
    ++ (statusClasses.map fun (name, condition) => ⟨name, measure (some condition), "SUM"⟩)
    ++ ((summaryPredicate.filter (· != "")).map fun predicate =>
        ⟨"summary_cnt", measure (some predicate), "SUM"⟩).toList

def selectList (aggregations : List Aggregation) : String :=
  ",\n    ".intercalate (aggregations.map fun a => a.expression ++ " AS " ++ a.name)

end Aggregation

namespace Query

/-- The condition of a statement: the time window, what the filters add, and the
breakdown's own predicate. -/
def condition (timeFilter : String) (filterText : String) (extraPredicate : Option String) : String :=
  let extra := (extraPredicate.filter (· != "")).map ("AND " ++ ·)
  " ".intercalate
    ((if timeFilter = "" then "1=1" else timeFilter) ::
      (if filterText = "" then [] else [filterText]) ++ extra.toList)

/-- The condition from parts as they are given.  All but the last have to be texts. -/
def conditionOf (timeFilter filterText extraPredicate : Value) : Except Fault String := do
  let part (value : Value) : Except Fault String :=
    match value.present? with
    | none => .ok ""
    | some (.text s) => .ok s
    | some _ => .error (.operand .unsuitable)
  return condition (← part timeFilter) (← part filterText) extraPredicate.shown?

/-- The text given, or the other one when there is none. -/
def orElseText (text : Option String) (other : String) : String :=
  (text.filter (· != "")).getD other

/-- The column that ranges are told apart by inside a bucketed query. -/
def bucketValueName : String := "val"

/-- The largest groups of a grouped query, and the totals of all groups. -/
def topWithTotals (groupedQuery : String) (outputs : List Aggregation) (orderBy : String)
    (limit : Int) : String :=
  Template.fillOrKeep Fragment.topTotals [
    ("GROUPED_QUERY", groupedQuery),
    ("ORDER_BY", orderBy),
    ("LIMIT", toString limit),
    ("COLUMNS", ", ".intercalate ("dim" :: outputs.map (·.name))),
    ("TOTALS", ", ".intercalate
      (outputs.map fun a => a.rollup ++ "(" ++ a.name ++ ") AS " ++ a.name))]

def breakdown (dimension : String) (aggregations : List Aggregation) (stage : SamplingStage)
    (condition : String) (limit : Int) (orderBy : Option String) : String :=
  let groupedQuery := Template.fillOrKeep Fragment.grouped [
    ("DIM_EXPR", dimension),
    ("AGGREGATIONS", Aggregation.selectList aggregations),
    ("SOURCE", stage.sourceText),
    ("SAMPLE_CLAUSE", stage.clause),
    ("WHERE", condition)]
  topWithTotals groupedQuery aggregations (orElseText orderBy "cnt DESC, dim") limit

/-- Ranges of a raw column: rows are grouped by value first, and the values by
range, so that the range expression tests the grouped value. -/
def bucketed (bucketExpression rawColumn : String) (aggregations : List Aggregation)
    (stage : SamplingStage) (condition : String) (limit : Int) (orderBy : Option String) : String :=
  let outer := aggregations.map fun a => { a with expression := "SUM(" ++ a.name ++ ")" }
  let groupedQuery := Template.fillOrKeep Fragment.bucketedGrouped [
    ("BUCKET_EXPR", bucketExpression),
    ("OUTER_AGGREGATIONS", Aggregation.selectList outer),
    ("RAW_COLUMN", rawColumn),
    ("AGGREGATIONS", Aggregation.selectList aggregations),
    ("SOURCE", stage.sourceText),
    ("SAMPLE_CLAUSE", stage.clause),
    ("WHERE", condition)]
  topWithTotals groupedQuery (aggregations ++ [⟨"min_val", "min_val", "MIN"⟩])
    (orElseText orderBy "min_val") limit

/-- Approximate candidates, exact counts of them, and totals over another condition. -/
def approximate (dimension : String) (aggregations : List Aggregation) (source condition : String)
    (limit : Int) (totalsCondition : Option String) : String :=
  Template.fillOrKeep Fragment.approximateTop [
    ("DIM_EXPR", dimension),
    ("AGGREGATIONS", Aggregation.selectList aggregations),
    ("SOURCE", source),
    ("WHERE", condition),
    ("TOTALS_WHERE", orElseText totalsCondition condition),
    ("LIMIT", toString limit)]

def lookup (dimension searchColumn : String) (values : List Value) (aggregations : List Aggregation)
    (stage : SamplingStage) (condition : String) : Except Fault String :=
  if values.isEmpty then .error (.input .nothingToLookUp)
  else .ok <| Template.fillOrKeep Fragment.missing [
    ("DIM_EXPR", dimension),
    ("AGGREGATIONS", Aggregation.selectList aggregations),
    ("SOURCE", stage.sourceText),
    ("SAMPLE_CLAUSE", stage.clause),
    ("WHERE", condition),
    ("SEARCH_COLUMN", searchColumn),
    ("VALUES", ", ".intercalate (values.map Literal.ofValue))]

end Query

end RequestBreakdown
