import RequestBreakdown.Load.Progress
import RequestBreakdown.Result.Ranking
import RequestBreakdown.View.Basic

/-!
# Views of breakdowns

A table of rows becomes a view: each row with its share of the largest count, the
shares of its classes of status, and the mark of a filter on it.  What the totals
hold beyond the rows is one more row, offered only while more rows can be asked
for.
-/

namespace RequestBreakdown

/-- What the filters in effect say about a row. -/
inductive FilterMark where
  | included
  | excluded
  deriving DecidableEq, Repr

def FilterMark.text : FilterMark → String
  | .included => "included"
  | .excluded => "excluded"

/-- The percentages of the classes of status. -/
structure StatusShares where
  ok : Binary64
  clientErrors : Binary64
  serverErrors : Binary64
  deriving DecidableEq, Repr

structure RowView where
  group : String
  /-- The part of the group that is shown dimmed, and the part after it. -/
  leading : String
  label : String
  count : Int
  /-- The count in percent of the largest. -/
  barWidth : Binary64
  shares : StatusShares
  mark : Option FilterMark := none
  isFilteredValue : Bool := false
  /-- Whether the row stands for all groups that are not shown. -/
  isOther : Bool := false
  /-- Whether the row counts more than the largest group. -/
  overflows : Bool := false
  deriving DecidableEq, Repr

structure BreakdownView where
  breakdownId : Value
  title : Value
  column : Value
  elapsed : Number
  speed : SpeedClass
  rows : List RowView := []
  isEmpty : Bool := false
  /-- Whether filters on the column can be cleared. -/
  canClear : Bool := false
  summaryRatio : Value := .null
  summaryLabel : Value := .null
  sampleRate : Value
  isContinuous : Value := .flag false
  nextTopN : Option Int := none
  deriving DecidableEq, Repr

namespace BreakdownView

def percentOf (part whole : Int) : Except Fault Binary64 :=
  ((Number.int part).div (.int whole)).map (·.mul Binary64.hundred)

/-- The shares of a count; of none when nothing is counted. -/
def sharesOf (count : Int) (row : Row) : Except Fault StatusShares := do
  if count ≤ 0 then return ⟨Binary64.zero, Binary64.zero, Binary64.zero⟩
  let share (column : String) : Except Fault Binary64 := do
    percentOf (← (row.get column).toCount) count
  return ⟨← share "cnt_ok", ← share "cnt_4xx", ← share "cnt_5xx"⟩

def markOf (filters : List Filter) (group : String) : Option FilterMark :=
  (filters.reverse.find? (·.value.display == group)).map fun f =>
    if f.excludes then .excluded else .included

/-- The text of a group; a missing one is empty. -/
def groupText (row : Row) : String :=
  match row.get Rows.groupColumn with
  | .null => ""
  | value => value.display

def emptyLabel : String := "(empty)"

def otherLabel : String := "(other)"

def rowView (prefixes : List Value) (filters : List Filter) (largest : Int) (row : Row) :
    Except Fault RowView := do
  let group := groupText row
  let count ← (row.get "cnt").toCount
  let (leading, rest) ← splitPrefix group prefixes
  let shares ← sharesOf count row
  return {
    group, leading, count, shares
    label := if group = "" then emptyLabel else rest
    barWidth := ← percentOf count largest
    mark := markOf filters group
    isFilteredValue := (row.get "is_filtered_value").isPresent }

/-- What the totals hold in a column beyond the rows. -/
def restOf (totals : Row) (rows : List Row) (column : String) : Except Fault Int := do
  let total ← (totals.get column).toCount
  let counts ← rows.mapM fun row => (row.get column).toCount
  return total - counts.foldl (· + ·) 0

/-- The row of all groups that are not shown, when there are any. -/
def otherRow? (totals : Row) (rows : List Row) (largest : Int) : Except Fault (Option RowView) := do
  let rest ← Rows.countColumns.mapM fun column => return (column, ← restOf totals rows column)
  let count := (rest.lookup "cnt").getD 0
  if count ≤ 0 then return none
  let shares ← sharesOf count ⟨rest.map fun (column, n) => (column, .int n)⟩
  let width ← percentOf count largest
  return some {
    group := "", leading := "", label := otherLabel, count, shares
    barWidth := if width.lt Binary64.hundred then width else Binary64.hundred
    isOther := true
    overflows := decide (largest < count) }

/-- The largest count, or one when it is zero. -/
def largestOf (counts : List Int) : Int :=
  match counts with
  | [] => 1
  | c :: cs =>
    let largest := cs.foldl max c
    if largest = 0 then 1 else largest

def rowViews (t : BreakdownTable) (filters : List Filter) (nextTopN : Option Int) :
    Except Fault (List RowView) := do
  if t.rows.isEmpty then return []
  let largest := largestOf (← t.rows.mapM fun row => (row.get "cnt").toCount)
  let prefixes ← prefixesOf t.labelPrefixes
  let views ← t.rows.mapM (rowView prefixes filters largest)
  match t.totals.present?, nextTopN with
  | some totals, some _ => return views ++ (← otherRow? (← Row.ofValue totals) t.rows largest).toList
  | _, _ => return views

/-- The view of a table under a title and a number of rows. -/
def ofTable (title : Value) (topN : Number) (t : BreakdownTable) : Except Fault BreakdownView := do
  let filters := t.activeFilters.filter (·.isOn t.column)
  let nextTopN := nextTopN? topN
  return {
    breakdownId := t.breakdownId
    title := title.orElse t.breakdownId
    column := t.column
    elapsed := t.elapsed
    speed := SpeedClass.ofMillis t.elapsed
    rows := ← rowViews t filters nextTopN
    isEmpty := t.rows.isEmpty
    canClear := !filters.isEmpty
    summaryRatio := if t.summaryLabel.isPresent then t.summaryRatio else .null
    summaryLabel := t.summaryLabel
    sampleRate := t.sampleRate
    isContinuous := t.isContinuous
    nextTopN }

end BreakdownView

end RequestBreakdown
