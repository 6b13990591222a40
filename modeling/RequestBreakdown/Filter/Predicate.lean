import RequestBreakdown.Filter.Basic
import RequestBreakdown.Sql.Literal

/-!
# Predicates of filters

The filters that may be applied are gathered by the column they test, and the
gathered comparisons are written as a condition: of the values kept on a column
one must hold, of the values dropped none.  A filter on a column or with an
operator that is not allowed is left out and listed.
-/

namespace RequestBreakdown

inductive FilterOperator where
  | equals
  | like
  deriving DecidableEq, Repr

namespace FilterOperator

def ofText? : String → Option FilterOperator
  | "=" => some .equals
  | "LIKE" => some .like
  | _ => none

def text : FilterOperator → String
  | .equals => "="
  | .like => "LIKE"

def negatedText : FilterOperator → String
  | .equals => "!="
  | .like => "NOT LIKE"

end FilterOperator

/-- One value and how it is compared. -/
structure Comparison where
  value : Value
  operator : FilterOperator
  deriving DecidableEq, Repr

/-- The comparisons of one tested column. -/
structure FilterGroup where
  column : String
  includes : List Comparison := []
  excludes : List Comparison := []
  deriving DecidableEq, Repr

/-- Why a filter was left out. -/
inductive RejectionReason where
  | columnNotAllowed
  | operatorNotAllowed (operator : Value)
  deriving DecidableEq, Repr

def RejectionReason.text : RejectionReason → String
  | .columnNotAllowed => "column not in allow-list"
  | .operatorNotAllowed operator => "operator " ++ operator.quoted ++ " not allowed"

def rejectionMessage (column reason : Value) : String :=
  "Rejected filter on " ++ column.quoted ++ ": " ++ reason.display

structure Rejection where
  column : Value
  reason : RejectionReason
  deriving DecidableEq, Repr

def Rejection.message (r : Rejection) : String := rejectionMessage r.column r.reason.text

namespace Comparison

def text (column : String) (c : Comparison) : String :=
  column ++ " " ++ c.operator.text ++ " " ++ Literal.ofValue c.value

def negatedText (column : String) (c : Comparison) : String :=
  column ++ " " ++ c.operator.negatedText ++ " " ++ Literal.ofValue c.value

end Comparison

namespace FilterGroup

def includeText (g : FilterGroup) : String :=
  match g.includes with
  | [c] => c.text g.column
  | cs => "(" ++ " OR ".intercalate (cs.map (Comparison.text g.column)) ++ ")"

def excludeText (g : FilterGroup) : String :=
  " AND ".intercalate (g.excludes.map (Comparison.negatedText g.column))

def clause (g : FilterGroup) : String :=
  let parts := (if g.includes.isEmpty then [] else [g.includeText]) ++
    (if g.excludes.isEmpty then [] else [g.excludeText])
  match parts with
  | [part] => part
  | parts => "(" ++ " AND ".intercalate parts ++ ")"

def insert (g : FilterGroup) (exclude : Bool) (c : Comparison) : FilterGroup :=
  if exclude then { g with excludes := g.excludes ++ [c] }
  else { g with includes := g.includes ++ [c] }

end FilterGroup

/-- The groups in the order of their first filters, and the filters left out. -/
structure FilterPredicate where
  groups : List FilterGroup := []
  rejected : List Rejection := []
  deriving DecidableEq, Repr

namespace FilterPredicate

/-- The condition as it follows others: each clause led in by `AND`. -/
def text (p : FilterPredicate) : String :=
  " ".intercalate (p.groups.map fun g => "AND " ++ g.clause)

/-- The comparison joins the group of its column, or starts it at the end. -/
def insertComparison (groups : List FilterGroup) (column : String) (exclude : Bool) (c : Comparison) :
    List FilterGroup :=
  match groups with
  | [] => [FilterGroup.insert { column } exclude c]
  | g :: rest =>
    if g.column = column then g.insert exclude c :: rest
    else g :: insertComparison rest column exclude c

/-- The column and the comparison that a filter stands for, or why there is none. -/
def check (allowed : List String) (f : Filter) : Except Rejection (String × Comparison) :=
  match f.sqlColumn.text?.filter allowed.contains with
  | some column =>
    match f.filterOperator.text?.bind FilterOperator.ofText? with
    | some operator => .ok (column, ⟨f.sqlValue, operator⟩)
    | none => .error ⟨f.sqlColumn, .operatorNotAllowed f.filterOperator⟩
  | none => .error ⟨f.sqlColumn, .columnNotAllowed⟩

def addFilter (allowed : List String) (p : FilterPredicate) (f : Filter) : FilterPredicate :=
  match check allowed f with
  | .ok (column, c) => { p with groups := insertComparison p.groups column f.excludes c }
  | .error rejection => { p with rejected := p.rejected ++ [rejection] }

def compile (allowed : List String) (filters : List Filter) : FilterPredicate :=
  filters.foldl (addFilter allowed) {}

def compileExcluding (allowed : List String) (filters : List Filter) (column : Value) :
    FilterPredicate :=
  compile allowed (Filter.notOn column filters)

/-- The predicate of filters as they are given.  A column that is made of other values cannot
be looked up among those that are allowed. -/
def ofFilters (allowed : List String) (filters : List Filter) : Except Fault FilterPredicate := do
  filters.forM fun f => discard f.sqlColumn.asName
  return compile allowed filters

end FilterPredicate

/-- What a group tests: the texts of values with their operators.  Columns and operators
stand for themselves by their keys. -/
structure GroupSummary where
  column : Value
  includes : List (String × Value) := []
  excludes : List (String × Value) := []
  deriving DecidableEq, Repr

namespace GroupSummary

def ofGroup (g : FilterGroup) : GroupSummary :=
  let pairs (cs : List Comparison) := cs.map fun c => (c.value.display, Value.text c.operator.text)
  { column := g.column, includes := pairs g.includes, excludes := pairs g.excludes }

/-- A group as it is given: its column, and pairs of values and operators.  What cannot be
a name is kept as it is, and is the operator of no other pair. -/
def ofPairs (column : Value) (includes excludes : List Value) : Except Fault GroupSummary := do
  let pair (given : Value) : Except Fault (String × Value) := do
    let (value, operator) ← given.asPair
    return (value.display, operator.key)
  return { column := (← column.asName).key
           includes := ← includes.mapM pair, excludes := ← excludes.mapM pair }

/-- The last group of a column stands for it. -/
def find? (groups : List GroupSummary) (column : Value) : Option GroupSummary :=
  groups.reverse.find? (·.column == column)

/-- Whether all that a group tests is tested by the current group, on the same side. -/
def within (group current : GroupSummary) : Bool :=
  group.includes.all current.includes.contains && group.excludes.all current.excludes.contains

/-- Whether each cached group lies within the current group of the same column. -/
def covers (current cached : List GroupSummary) : Bool :=
  (cached.map (·.column)).all fun column =>
    match find? current column, find? cached column with
    | some mine, some theirs => theirs.within mine
    | _, _ => false

/-- Whether pairs are among the current ones, which are looked up by names. -/
def among (current pairs : List (String × Value)) : Except Fault Bool := do
  current.forM fun pair => discard pair.2.asName
  pairs.allM fun pair => do
    let _ ← pair.2.asName
    return current.any fun other => other.1 == pair.1 && other.2.same pair.2

/-- Whether a group as it is given lies within the current one. -/
def withinGiven (group current : GroupSummary) : Except Fault Bool := do
  current.excludes.forM fun pair => discard pair.2.asName
  if ← among current.includes group.includes then among current.excludes group.excludes
  else return false

/-- Whether each cached group as it is given lies within the current one of its column.
Where there are no current groups nothing can be found among them. -/
def coverage (current : Option (List GroupSummary)) (cached : List GroupSummary) :
    Except Fault Bool :=
  (cached.map (·.column)).allM fun column =>
    match current with
    | none => .error (.absent (.part Value.null.kindName "get"))
    | some current =>
      match find? current column, find? cached column with
      | some mine, some theirs => if column.same mine.column then theirs.withinGiven mine else .ok false
      | _, _ => .ok false

end GroupSummary

namespace FilterPredicate

/-- Whether the current groups hold at least the comparisons of the cached ones. -/
def covers (current cached : List FilterGroup) : Bool :=
  GroupSummary.covers (current.map .ofGroup) (cached.map .ofGroup)

end FilterPredicate

end RequestBreakdown
