import RequestBreakdown.Decimal.Layout
import RequestBreakdown.Fault

/-!
# Numbers

A number is an integer of any size or a binary64 number.  The two are compared
by their exact values.  A truth value can stand for a number as well: it is written
in words, and counts as one or zero.
-/

namespace RequestBreakdown

inductive Number where
  | flag (b : Bool)
  | int (i : Int)
  | real (x : Binary64)
  deriving DecidableEq, Repr, Inhabited

namespace Number

instance : Coe Int Number := ⟨.int⟩

def ofNat (n : Nat) : Number := .int n

/-- The integer that a truth value counts as. -/
def ofFlag (b : Bool) : Int := if b then 1 else 0

def text : Number → String
  | .flag true => "True"
  | .flag false => "False"
  | .int i => toString i
  | .real x => x.text

/-- A number that is written in digits. -/
def counted : Number → Number
  | .flag b => .int (ofFlag b)
  | n => n

/-- The integer, for a number that is one by its kind. -/
def integer? (n : Number) : Option Int :=
  match n.counted with
  | .int i => some i
  | _ => none

/-- The order of the exact values. -/
def compare? (a b : Number) : Option Ordering :=
  match a.counted, b.counted with
  | .int i, .int j => some (compare i j)
  | .int i, .real x => compareIntReal? i x
  | .real x, .int i => (compareIntReal? i x).map Ordering.swap
  | .real x, .real y => x.compare? y
  | _, _ => none
where
  compareIntReal? (i : Int) : Binary64 → Option Ordering
    | .nan => none
    | .infinite negative => some (if negative then .gt else .lt)
    | x@(.finite ..) => some (compare (i * Binary64.unitsPerOne) x.units)

def lt (a b : Number) : Bool := a.compare? b == some .lt

theorem int_lt_int (m n : Int) : (int m).lt (int n) = decide (m < n) := by
  rw [Bool.eq_iff_iff]
  simp [lt, compare?, counted, Int.compare_eq_lt]

def le (a b : Number) : Bool := a.lt b || a.compare? b == some .eq

/-- Equality of values; not-a-number equals nothing. -/
def eqv (a b : Number) : Bool := a.compare? b == some .eq

/-- Zero is the only number that counts as absent. -/
def isZero : Number → Bool
  | .flag b => !b
  | .int i => i == 0
  | .real x => x.isZero

def neg : Number → Number
  | .flag b => .int (-ofFlag b)
  | .int i => .int (-i)
  | .real x => .real x.neg

def times : Number → Int → Number
  | .flag b, n => .int (ofFlag b * n)
  | .int i, n => .int (i * n)
  | .real x, n => .real (x.mul (Binary64.ofInt n))

def toBinary64 : Number → Except Fault Binary64
  | .flag b => .ok (Binary64.ofInt (ofFlag b))
  | .int i =>
    let x := Binary64.ofInt i
    if x.isFinite then .ok x else .error (.range .integerToNumber)
  | .real x => .ok x

/-- Quotient in binary64: of two integers rounded once, else of their binary64 values. -/
def div (a b : Number) : Except Fault Binary64 :=
  match a.counted, b.counted with
  | .int i, .int j =>
    if j = 0 then .error (.divisionByZero "division by zero")
    else
      let x := Binary64.ofRatio (decide (i < 0) != decide (j < 0)) i.natAbs j.natAbs
      if x.isFinite then .ok x else .error (.range .quotient)
  | a, b => do
    let x ← a.toBinary64
    let y ← b.toBinary64
    if y.isZero then throw (.divisionByZero "float division by zero")
    return x.div y

/-- The integer that a conversion of a binary64 number gives, if it has one. -/
def integerOf (x : Binary64) (converted : Option Int) : Except Fault Int :=
  match converted with
  | some i => .ok i
  | none => .error (if x.isNaN then .input .notANumber else .range .infinityToInteger)

def truncate : Number → Except Fault Int
  | .flag b => .ok (ofFlag b)
  | .int i => .ok i
  | .real x => integerOf x x.truncate?

/-- The nearest integer, a half to the even one. -/
def round : Number → Except Fault Int
  | .flag b => .ok (ofFlag b)
  | .int i => .ok i
  | .real x => integerOf x x.round?

/-- An integer that was computed is written in digits, unless there are too many. -/
def integerText (i : Int) : Except Fault String :=
  if (toString i.natAbs).length ≤ Text.maxIntegerDigits then .ok (toString i)
  else .error (.input .integerTooWide)

end Number

end RequestBreakdown
