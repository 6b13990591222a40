import RequestBreakdown.Value.Use

/-!
# Rows

A row holds named values in the order of their columns.
-/

namespace RequestBreakdown

structure Row where
  fields : List (String × Value)
  deriving DecidableEq, Repr, Inhabited

namespace Row

def empty : Row := ⟨[]⟩

def value (row : Row) : Value := .record row.fields

/-- The row that a value is; values of other kinds have no columns. -/
def ofValue : Value → Except Fault Row
  | .record fields => .ok ⟨fields⟩
  | value => .error (.absent (.part value.kindName "get"))

/-- The rows that are the items of a value. -/
def listOf (value : Value) : Except Fault (List Row) := do (← value.items).mapM ofValue

def get? (row : Row) (name : String) : Option Value := row.fields.lookup name

/-- The value of a column, null where it is missing. -/
def get (row : Row) (name : String) : Value := (row.get? name).getD .null

def isEmpty (row : Row) : Bool := row.fields.isEmpty

/-- The value takes the place of an earlier one of the same name, else it comes last. -/
def set (row : Row) (name : String) (value : Value) : Row :=
  if (row.get? name).isSome then
    ⟨row.fields.map fun field => if field.1 = name then (name, value) else field⟩
  else ⟨row.fields ++ [(name, value)]⟩

def erase (row : Row) (name : String) : Row := ⟨row.fields.filter (·.1 != name)⟩

/-- Columns paired with the values of a record, as far as both go. -/
def ofRecord (columns : List String) (record : List Value) : Row :=
  (columns.zip record).foldl (fun row field => row.set field.1 field.2) empty

end Row

end RequestBreakdown
