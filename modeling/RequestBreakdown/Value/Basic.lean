import RequestBreakdown.Number
import RequestBreakdown.Time.Timestamp

/-!
# Values

What a column of a log can hold, and what a caller can hand over: nothing, a truth
value, a number, a text, a time, a list of values, or a record of named values.
Two questions are asked of every value, and they are different: whether it counts as
absent, and which other values it is the same as.  The same values have the same key, in
which numbers and truth values stand by value and times by the moment that they denote.
-/

namespace RequestBreakdown

inductive Value where
  | null
  | flag (b : Bool)
  | int (i : Int)
  | real (x : Binary64)
  | text (s : String)
  | time (t : Timestamp)
  | list (items : List Value)
  | record (fields : List (String × Value))
  deriving Repr, Inhabited

instance : Coe String Value := ⟨.text⟩

namespace Value

/-! ### Equality -/

mutual

def decEq : (a b : Value) → Decidable (a = b)
  | .null, .null => isTrue rfl
  | .flag a, .flag b => decidable_of_iff (a = b) (by simp)
  | .int a, .int b => decidable_of_iff (a = b) (by simp)
  | .real a, .real b => decidable_of_iff (a = b) (by simp)
  | .text a, .text b => decidable_of_iff (a = b) (by simp)
  | .time a, .time b => decidable_of_iff (a = b) (by simp)
  | .list a, .list b =>
    match decEqList a b with
    | isTrue h => isTrue (congrArg Value.list h)
    | isFalse h => isFalse fun e => h (Value.list.inj e)
  | .record a, .record b =>
    match decEqFields a b with
    | isTrue h => isTrue (congrArg Value.record h)
    | isFalse h => isFalse fun e => h (Value.record.inj e)
  | .null, .flag _ | .null, .int _ | .null, .real _ | .null, .text _ | .null, .time _
  | .null, .list _ | .null, .record _ => isFalse nofun
  | .flag _, .null | .flag _, .int _ | .flag _, .real _ | .flag _, .text _ | .flag _, .time _
  | .flag _, .list _ | .flag _, .record _ => isFalse nofun
  | .int _, .null | .int _, .flag _ | .int _, .real _ | .int _, .text _ | .int _, .time _
  | .int _, .list _ | .int _, .record _ => isFalse nofun
  | .real _, .null | .real _, .flag _ | .real _, .int _ | .real _, .text _ | .real _, .time _
  | .real _, .list _ | .real _, .record _ => isFalse nofun
  | .text _, .null | .text _, .flag _ | .text _, .int _ | .text _, .real _ | .text _, .time _
  | .text _, .list _ | .text _, .record _ => isFalse nofun
  | .time _, .null | .time _, .flag _ | .time _, .int _ | .time _, .real _ | .time _, .text _
  | .time _, .list _ | .time _, .record _ => isFalse nofun
  | .list _, .null | .list _, .flag _ | .list _, .int _ | .list _, .real _ | .list _, .text _
  | .list _, .time _ | .list _, .record _ => isFalse nofun
  | .record _, .null | .record _, .flag _ | .record _, .int _ | .record _, .real _
  | .record _, .text _ | .record _, .time _ | .record _, .list _ => isFalse nofun

def decEqList : (a b : List Value) → Decidable (a = b)
  | [], [] => isTrue rfl
  | [], _ :: _ | _ :: _, [] => isFalse nofun
  | x :: xs, y :: ys =>
    match decEq x y, decEqList xs ys with
    | isTrue h, isTrue hs => isTrue (by rw [h, hs])
    | isFalse h, _ => isFalse fun e => h (List.cons.inj e).1
    | _, isFalse hs => isFalse fun e => hs (List.cons.inj e).2

def decEqFields : (a b : List (String × Value)) → Decidable (a = b)
  | [], [] => isTrue rfl
  | [], _ :: _ | _ :: _, [] => isFalse nofun
  | (n, x) :: xs, (m, y) :: ys =>
    match decEq x y, decEqFields xs ys with
    | isTrue h, isTrue hs => decidable_of_iff (n = m) (by simp [h, hs])
    | isFalse h, _ => isFalse fun e => h (Prod.mk.inj (List.cons.inj e).1).2
    | _, isFalse hs => isFalse fun e => hs (List.cons.inj e).2

end

instance : DecidableEq Value := decEq

/-! ### Kinds -/

def kindName : Value → String
  | .null => "NoneType"
  | .flag _ => "bool"
  | .int _ => "int"
  | .real _ => "float"
  | .text _ => "str"
  | .time _ => "datetime.datetime"
  | .list _ => "list"
  | .record _ => "dict"

/-- Truth values count as one and zero. -/
def number? : Value → Option Number
  | .flag b => some (.flag b)
  | .int i => some (.int i)
  | .real x => some (.real x)
  | _ => none

def text? : Value → Option String
  | .text s => some s
  | _ => none

/-! ### Presence -/

/-- Whether the value is neither null, false, zero nor empty. -/
def isPresent : Value → Bool
  | .null => false
  | .text s => s != ""
  | .time _ => true
  | .list items => !items.isEmpty
  | .record fields => !fields.isEmpty
  | value =>
    match value.number? with
    | some n => !n.isZero
    | none => false

/-- The value, if it does not count as absent. -/
def present? (value : Value) : Option Value := if value.isPresent then some value else none

def orElse (value other : Value) : Value := value.present?.getD other

/-! ### Sameness -/

mutual

/-- What a value is told apart by. -/
def key : Value → Value
  | .flag b => .int (Number.ofFlag b)
  | .real x => if x.isInteger then .int (x.truncate?.getD 0) else .real x
  | .time t => .time t.moment
  | .list items => .list (keys items)
  | .record fields => .record (keyFields fields)
  | value => value

def keys : List Value → List Value
  | [] => []
  | item :: rest => item.key :: keys rest

def keyFields : List (String × Value) → List (String × Value)
  | [] => []
  | (name, value) :: rest => (name, value.key) :: keyFields rest

end

mutual

/-- Whether the value holds something that equals nothing, not even itself. -/
def holdsNaN : Value → Bool
  | .real x => x.isNaN
  | .list items => anyNaN items
  | .record fields => anyFieldNaN fields
  | _ => false

def anyNaN : List Value → Bool
  | [] => false
  | item :: rest => item.holdsNaN || anyNaN rest

def anyFieldNaN : List (String × Value) → Bool
  | [] => false
  | (_, value) :: rest => value.holdsNaN || anyFieldNaN rest

end

/-- Equality by value, across the kinds of numbers. -/
def same (a b : Value) : Bool := !a.key.holdsNaN && a.key == b.key

end Value

end RequestBreakdown
