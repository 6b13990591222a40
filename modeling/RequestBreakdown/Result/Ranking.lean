import RequestBreakdown.Result.RunSort
import RequestBreakdown.Row
import RequestBreakdown.Value.Text

/-!
# Ranking, filling and summing up rows

Rows are ranked by their count and then by their group, ranges without rows are
filled with zeros, and the summary of a breakdown is a share of its total.
-/

namespace RequestBreakdown

namespace Rows

def groupColumn : String := "dim"

def groupText (row : Row) : String := (row.get groupColumn).display

/-- The count of all requests, and the counts by class of status. -/
def countColumns : List String := ["cnt", "cnt_ok", "cnt_4xx", "cnt_5xx"]

def summaryColumn : String := "summary_cnt"

/-- The row of a range in which nothing was found. -/
def zeroRow (label : Value) (withSummary : Bool) : Row :=
  ⟨(groupColumn, label) :: countColumns.map (fun c => (c, .int 0))
    ++ if withSummary then [(summaryColumn, .int 0)] else []⟩

/-- The last row of a range, unless that holds nothing. -/
def findLabel? (rows : List Row) (label : Value) : Option Row :=
  (rows.reverse.find? fun row => (row.get groupColumn).same label).filter (!·.isEmpty)

def fillRanges (rows : List Row) (labels : List Value) (withSummary : Bool) : List Row :=
  labels.map fun label => (findLabel? rows label).getD (zeroRow label withSummary)

/-- A row that can be found by its group. -/
def rowInRange (given : Value) : Except Fault Row := do
  let row ← Row.ofValue given
  discard (row.get groupColumn).asName
  return row

/-- One row for each label, from rows and labels as they are given. -/
def fillItems (rows labels : Value) (withSummary : Bool) : Except Fault (List Row) := do
  let rows ← (← rows.items).mapM rowInRange
  return fillRanges rows (← (← labels.items).mapM Value.asName) withSummary

/-- The value, or zero for one that counts as absent. -/
def countOrZero (row : Row) (column : String) : Value :=
  (row.get column).orElse (.int 0)

/-- What a row is ranked by: its count, which must be a number, and the text of its group. -/
def rankKey (row : Row) : Except Fault (Number × String) :=
  let count := countOrZero row "cnt"
  match count.number? with
  | some n => .ok (n, groupText row)
  | none => .error (.operand (.notNegatable count.kindName))

/-- Higher counts come first, equal counts in the order of their groups. -/
def ranksBefore (a b : Number × String) : Bool :=
  if a.1.eqv b.1 then decide (a.2 < b.2) else b.1.lt a.1

/-- A row with what it is ranked by. -/
abbrev RankedRow := (Number × String) × Row

def ranked (row : Row) : Except Fault RankedRow := (rankKey row).map fun key => (key, row)

/-- Rows by falling count.  Counts that are no number at all compare with none, so
rows among which there is one have no order to find: they are sorted run by run. -/
def sortRanked (rows : List RankedRow) : List Row :=
  let sorted :=
    if rows.all fun entry => entry.1.1.eqv entry.1.1 then
      rows.mergeSort fun a b => !ranksBefore b.1 a.1
    else RunSort.sort (fun a b => ranksBefore a.1 b.1) rows
  sorted.map (·.2)

/-- The rows by falling count. -/
def rank (rows : List Row) : Except Fault (List Row) := (rows.mapM ranked).map sortRanked

/-- The rows by falling count, as they are given; each is looked at before the next. -/
def rankItems (rows : Value) : Except Fault (List Row) := do
  return sortRanked (← (← rows.items).mapM fun given => do ranked (← Row.ofValue given))

/-- The share of the summary in the total, where both are known and the total is
above zero. -/
def summaryRatio (totals : Value) : Except Fault (Option Binary64) := do
  match totals.present? with
  | none => return none
  | some totals =>
    let row ← Row.ofValue totals
    let count := countOrZero row "cnt"
    let some n := count.number?
      | throw (.operand (.notOrdered "<=" count.kindName "int"))
    if n.le (.int 0) then return none
    let summary := row.get summaryColumn
    if summary = .null then return none
    match summary.number? with
    | some m => return some (← m.div n)
    | none => throw (.operand (.notDivisible summary.kindName count.kindName))

/-- The rows of a table as they are given; a value that counts as absent has none. -/
def given (rows : Value) : Except Fault (List Row) :=
  match rows.present? with
  | none => .ok []
  | some rows => Row.listOf rows

end Rows

end RequestBreakdown
