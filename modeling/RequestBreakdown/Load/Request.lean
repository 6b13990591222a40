import RequestBreakdown.Filter.Predicate
import RequestBreakdown.Row
import RequestBreakdown.Sql.Query
import RequestBreakdown.Time.Window

/-!
# Requests for a breakdown

What is settled once, before a breakdown is queried: the column that is shown,
the conditions, and the stages from coarse to fine.  A breakdown whose groups
are families is taken apart into its members while a filter selects a family;
any other breakdown leaves out the filters on its own column, so that the other
groups stay in sight.
-/

namespace RequestBreakdown

/-- What the switches of breakdowns stand at, by name: each counts requests or bytes. -/
abbrev CountingModes := Value

structure LoadRequest where
  breakdown : Breakdown
  /-- The expression that rows are grouped by. -/
  column : Value
  /-- Whether a family is taken apart. -/
  decomposed : Bool
  condition : String
  /-- The condition of the totals of an approximate query: no filters. -/
  totalsCondition : String
  /-- The most rows of a query. -/
  topN : Int
  /-- The ranges, for a breakdown that has them. -/
  rangeCount : Int := topN
  stages : List SamplingStage
  deriving DecidableEq, Repr

namespace LoadRequest

/-- The column with the members of a family, when one of its families is selected. -/
def memberColumn? (b : Breakdown) (topN : Int) (filters : List Filter) : Option Value :=
  if b.filterOperator = "LIKE" && filters.any (·.isOn (b.column topN)) then
    b.filterColumn.present?
  else none

def prepare (planner : SamplingPlanner) (now : Timestamp) (topN : Int) (b : Breakdown)
    (filters : List Filter) (window : TimeWindow) : Except Fault LoadRequest := do
  let members := memberColumn? b topN filters
  let applied := if members.isSome then filters else Filter.notOn (b.column topN) filters
  let predicate ← FilterPredicate.ofFilters Breakdown.allowedColumns applied
  let age ← window.ageMillis now
  let period ← window.periodMillis
  return {
    breakdown := b
    column := members.getD (b.column topN)
    decomposed := members.isSome
    condition := Query.condition window.condition predicate.text b.extraPredicate.shown?
    totalsCondition := Query.condition window.condition "" b.extraPredicate.shown?
    topN
    stages := ← planner.plan b.hasManyGroups (.int period) (some (.int age)) }

/-- The request for a number of rows as it is given. -/
def prepareFor (planner : SamplingPlanner) (now : Timestamp) (topN : Value) (b : Breakdown)
    (filters : List Filter) (window : TimeWindow) : Except Fault LoadRequest := do
  let request ← prepare planner now (← b.dimension.rangeCount topN) b filters window
  return { request with topN := topN.toInt.toOption.getD 0 }

/-- What goes wrong with every query when no integer can be made of the number of rows. -/
def limitFault? (topN : Value) : Option Fault :=
  match topN.toInt with
  | .ok _ => none
  | .error fault => some fault

/-- Whether every range is shown, whether it has rows or not. -/
def isContinuous (r : LoadRequest) : Bool := r.breakdown.isBucketed && !r.decomposed

def labels (r : LoadRequest) : List String := (r.breakdown.dimension.labels? r.rangeCount).getD []

/-- What the switch of the breakdown stands at, if it has one. -/
def mode (r : LoadRequest) (modes : CountingModes) : Except Fault Value :=
  match r.breakdown.modeToggle.present? with
  | some toggle => do
    let modes ← Row.ofValue modes
    return ((← toggle.asName).text?.map modes.get).getD .null
  | none => .ok .null

/-- What goes wrong with a query when the switches are none. -/
def modeFault? (r : LoadRequest) (modes : CountingModes) : Option Fault :=
  match r.mode modes with
  | .ok _ => none
  | .error fault => some fault

def countsBytes (r : LoadRequest) (modes : CountingModes) : Bool :=
  match r.mode modes with
  | .ok mode => mode == .text "bytes"
  | .error _ => false

def aggregations (r : LoadRequest) (modes : CountingModes) (stage : SamplingStage) :
    List Aggregation :=
  Aggregation.forBreakdown (.int stage.multiplier) (r.countsBytes modes) r.breakdown.summaryPredicate.shown?

/-- Whether a stage asks for approximate candidates: only the last one, over all
rows, of a breakdown with many values. -/
def isApproximate (r : LoadRequest) (stage : SamplingStage) (isLast : Bool) : Bool :=
  isLast && r.breakdown.hasManyGroups && !r.isContinuous && (Number.int 1).le stage.rate

/-- The query over ranges of the raw column, for a breakdown that has one. -/
def bucketedQuery? (r : LoadRequest) (modes : CountingModes) (stage : SamplingStage) :
    Option String :=
  match r.breakdown.dimension, r.breakdown.rawColumn.shown? with
  | .ranges kind _, some rawColumn =>
    if r.decomposed then none
    else
      let bucketExpression := (kind.partition r.rangeCount).expression Query.bucketValueName
      some (Query.bucketed bucketExpression rawColumn (r.aggregations modes stage) stage r.condition
        r.topN r.breakdown.orderBy.shown?)
  | _, _ => none

def stageQuery (r : LoadRequest) (modes : CountingModes) (stage : SamplingStage) (isLast : Bool) :
    String :=
  if r.isApproximate stage isLast then
    Query.approximate r.column.display (r.aggregations modes stage) stage.sourceText r.condition r.topN
      (some r.totalsCondition)
  else
    (r.bucketedQuery? modes stage).getD <|
      Query.breakdown r.column.display (r.aggregations modes stage) stage r.condition r.topN
        (if r.decomposed then none else r.breakdown.orderBy.shown?)

end LoadRequest

end RequestBreakdown
