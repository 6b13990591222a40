import RequestBreakdown.Fault
import RequestBreakdown.Text.Numeral
import RequestBreakdown.Value.Basic

/-!
# Uses of values

What a value can be used as: a number, a text, an integer, the items of a loop, the
fields of a row.  A value of an unsuitable kind is a fault, whose message names the kind.
-/

namespace RequestBreakdown

namespace Value

def asNumber (value : Value) : Except Fault Number :=
  match value.number? with
  | some n => .ok n
  | none => .error (.operand (.notNumeric value.kindName))

def asText (value : Value) : Except Fault String :=
  match value.text? with
  | some s => .ok s
  | none => .error (.absent (.part value.kindName "strip"))

/-- The name that something is kept under, which must not be made of other values. -/
def asName : Value → Except Fault Value
  | .list items => .error (.operand (.notHashable (Value.list items).kindName))
  | .record fields => .error (.operand (.notHashable (Value.record fields).kindName))
  | value => .ok value

/-- The values that a loop takes one after the other: of a text its characters, of a
record its names. -/
def items : Value → Except Fault (List Value)
  | .list items => .ok items
  | .text s => .ok (s.toList.map fun c => .text c.toString)
  | .record fields => .ok (fields.map fun field => .text field.1)
  | value => .error (.operand (.notIterable value.kindName))

def asPair (value : Value) : Except Fault (Value × Value) := do
  match ← value.items with
  | [a, b] => return (a, b)
  | items => throw (.input (.notAPair items.length))

/-- Whether something that can hold a text does not: a text one of its parts, a list an item,
a record a name. -/
def lacks (value : Value) (text : String) : Bool :=
  match value with
  | .text s => (s.splitOn text).length < 2
  | .list items => !items.contains (.text text)
  | .record fields => (fields.lookup text).isNone
  | _ => false

mutual

/-- The order of numbers, of texts, of times, and of lists by the first difference; other
values have none. -/
def lt : Value → Value → Except Fault Bool
  | .text s, .text t => .ok (decide (s < t))
  | .time t, .time u => (u.le t).map (!·)
  | .list xs, .list ys => ltItems xs ys
  | a, b =>
    match a.number?, b.number? with
    | some m, some n => .ok (m.lt n)
    | _, _ => .error (.operand (.notOrdered "<" a.kindName b.kindName))

def ltItems : List Value → List Value → Except Fault Bool
  | _, [] => .ok false
  | [], _ :: _ => .ok true
  | x :: xs, y :: ys => if x.same y then ltItems xs ys else lt x y

end

def toBinary64 : Value → Except Fault Binary64
  | .text s =>
    match Text.readNumber? s with
    | some x => .ok x
    | none => .error (.input (.unreadableNumber s))
  | value =>
    match value.number? with
    | some n => n.toBinary64
    | none => .error (.operand (.notNumeric value.kindName))

/-- An integer: text is read as one, the fraction of a number is dropped. -/
def toInt : Value → Except Fault Int
  | .text s =>
    match Text.readInteger s with
    | .ok i => .ok i
    | .error .malformed => .error (.input (.unreadableInteger s))
    | .error (.tooLong digits) => .error (.input (.integerTooLong digits))
  | value =>
    match value.number? with
    | some n => n.truncate
    | none => .error (.operand (.notConvertible value.kindName))

/-- A count: absent and empty values are zero, all else goes through binary64. -/
def toCount : Value → Except Fault Int
  | .null => .ok 0
  | .text "" => .ok 0
  | value => do (Number.real (← value.toBinary64)).truncate

end Value

def Number.value : Number → Value
  | .flag b => .flag b
  | .int i => .int i
  | .real x => .real x

end RequestBreakdown
