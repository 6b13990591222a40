import RequestBreakdown.Row

/-!
# Query results

The records of a query become rows; the record that is marked as the total is
set apart.  The marker alone decides, so an empty group stays a row.
-/

namespace RequestBreakdown

structure QueryResult where
  rows : List Row
  totals : Option Row := none
  columns : List String := []
  /-- Milliseconds that the query took. -/
  networkTime : Option Binary64 := none
  deriving DecidableEq, Repr

namespace QueryResult

def totalMarker : String := "is_total"

def rankColumn : String := "row_rank"

/-- Whether a row is marked as the total. -/
def isTotal (row : Row) : Bool := (row.get totalMarker).isPresent

/-- A row without the columns that only served the query. -/
def stripMarkers (row : Row) : Row := (row.erase totalMarker).erase rankColumn

def addRecord (columns : List String) (result : QueryResult) (record : List Value) : QueryResult :=
  let row := Row.ofRecord columns record
  if isTotal row then { result with totals := some (stripMarkers row) }
  else { result with rows := result.rows ++ [stripMarkers row] }

/-- The records of a query as rows, with the last total set apart. -/
def ofRecords (columns : List String) (records : List (List Value)) : QueryResult :=
  records.foldl (addRecord columns)
    { rows := [], columns := columns.filter fun c => c != totalMarker && c != rankColumn }

/-- The records of a query as they are given: whatever has items is a record. -/
def ofItems (columns : List String) (records : Value) : Except Fault QueryResult := do
  return ofRecords columns (← (← records.items).mapM Value.items)

end QueryResult

end RequestBreakdown
