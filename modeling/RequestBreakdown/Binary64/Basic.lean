import RequestBreakdown.Power

/-!
# Binary64 numbers

Measurements, rates and bucket arithmetic are carried out in binary64.  A
number is kept by its exact value, a mantissa times a power of two, and every
operation is the exact result followed by one rounding to nearest, ties to
even.  No machine arithmetic is involved, so each result can be computed in a
proof.
-/

namespace RequestBreakdown

/-- Not-a-number, an infinity, or `± mantissa * 2 ^ exponent`. -/
inductive Binary64 where
  | nan
  | infinite (negative : Bool)
  | finite (negative : Bool) (mantissa : Nat) (exponent : Int)
  deriving DecidableEq, Repr, Inhabited

/-- The quotient rounded to the nearest integer, a half to the even one. -/
def roundQuotient (num den : Nat) : Nat :=
  let quotient := num / den
  let twice := 2 * (num % den)
  if twice < den then quotient
  else if den < twice then quotient + 1
  else quotient + quotient % 2

namespace Binary64

/-- The exponent of the smallest positive number; every finite number is a
multiple of `2 ^ minExponent`. -/
def minExponent : Int := -1074

/-- The exponent of the largest finite number. -/
def maxExponent : Int := 971

/-- Mantissas have at most this many bits. -/
def precision : Nat := 53

def zero : Binary64 := .finite false 0 minExponent

/-- The two sides of `num / den = quotient * 2 ^ exponent` brought to a
quotient of naturals. -/
def scaledQuotient (num den : Nat) (exponent : Int) : Nat × Nat :=
  if 0 ≤ exponent then (num, den * twoTo exponent.toNat)
  else (num * twoTo (-exponent).toNat, den)

/-- The exponent at which the quotient has a mantissa of full precision, or
the smallest exponent when the quotient is too small for that. -/
def exponentFor (num den : Nat) : Int :=
  let estimate : Int := (num.log2 : Int) - (den.log2 : Int) - 52
  let (top, bottom) := scaledQuotient num den estimate
  let exponent := if top < bottom * twoTo 52 then estimate - 1 else estimate
  max exponent minExponent

/-- A mantissa that rounding carried to one bit too many moves to the next
exponent; beyond the largest exponent the number is infinite. -/
def normalized (negative : Bool) (mantissa : Nat) (exponent : Int) : Binary64 :=
  let (mantissa, exponent) :=
    if mantissa = twoTo precision then (twoTo (precision - 1), exponent + 1) else (mantissa, exponent)
  if maxExponent < exponent then .infinite negative else .finite negative mantissa exponent

/-- The number nearest to `± num / den`. -/
def ofRatio (negative : Bool) (num den : Nat) : Binary64 :=
  if num = 0 then .finite negative 0 minExponent
  else
    let exponent := exponentFor num den
    let (top, bottom) := scaledQuotient num den exponent
    normalized negative (roundQuotient top bottom) exponent

def ofInt (i : Int) : Binary64 := ofRatio (decide (i < 0)) i.natAbs 1

/-- The number nearest to `num / den` for a positive `den`. -/
def ofIntRatio (num : Int) (den : Nat) : Binary64 := ofRatio (decide (num < 0)) num.natAbs den

/-- A finite number counted in units of `2 ^ minExponent`. -/
def units : Binary64 → Int
  | .finite negative mantissa exponent =>
    let magnitude : Int := (mantissa * twoTo (exponent - minExponent).toNat : Nat)
    if negative then -magnitude else magnitude
  | _ => 0

def unitsPerOne : Nat := twoTo 1074

def isNaN : Binary64 → Bool
  | .nan => true
  | _ => false

def isFinite : Binary64 → Bool
  | .finite .. => true
  | _ => false

/-- Whether the sign is minus, also for zeros and infinities. -/
def isNegative : Binary64 → Bool
  | .nan => false
  | .infinite negative => negative
  | .finite negative _ _ => negative

def isZero : Binary64 → Bool
  | .finite _ mantissa _ => mantissa == 0
  | _ => false

def neg : Binary64 → Binary64
  | .nan => .nan
  | .infinite negative => .infinite (!negative)
  | .finite negative mantissa exponent => .finite (!negative) mantissa exponent

def abs : Binary64 → Binary64
  | .nan => .nan
  | .infinite _ => .infinite false
  | .finite _ mantissa exponent => .finite false mantissa exponent

/-- Sum, correctly rounded.  An exact zero is negative only when both terms are. -/
def add : Binary64 → Binary64 → Binary64
  | .nan, _ => .nan
  | _, .nan => .nan
  | .infinite a, .infinite b => if a = b then .infinite a else .nan
  | .infinite a, _ => .infinite a
  | _, .infinite b => .infinite b
  | x@(.finite a _ _), y@(.finite b _ _) =>
    let total := x.units + y.units
    if total = 0 then .finite (a && b) 0 minExponent
    else ofIntRatio total unitsPerOne

def sub (x y : Binary64) : Binary64 := x.add y.neg

def mul : Binary64 → Binary64 → Binary64
  | .nan, _ => .nan
  | _, .nan => .nan
  | .infinite a, y => if y.isZero then .nan else .infinite (a != y.isNegative)
  | x, .infinite b => if x.isZero then .nan else .infinite (x.isNegative != b)
  | x@(.finite a _ _), y@(.finite b _ _) =>
    ofRatio (a != b) (x.units.natAbs * y.units.natAbs) (unitsPerOne * unitsPerOne)

def div : Binary64 → Binary64 → Binary64
  | .nan, _ => .nan
  | _, .nan => .nan
  | .infinite _, .infinite _ => .nan
  | .infinite a, .finite b _ _ => .infinite (a != b)
  | .finite a _ _, .infinite b => .finite (a != b) 0 minExponent
  | x@(.finite a m _), y@(.finite b n _) =>
    if n = 0 then (if m = 0 then .nan else .infinite (a != b))
    else ofRatio (a != b) x.units.natAbs y.units.natAbs

/-- The order of the values; nothing is comparable to not-a-number. -/
def compare? : Binary64 → Binary64 → Option Ordering
  | .nan, _ => none
  | _, .nan => none
  | .infinite a, .infinite b =>
    some (if a = b then .eq else if a then .lt else .gt)
  | .infinite a, .finite .. => some (if a then .lt else .gt)
  | .finite .., .infinite b => some (if b then .gt else .lt)
  | x@(.finite ..), y@(.finite ..) => some (compare x.units y.units)

def lt (x y : Binary64) : Bool := x.compare? y == some .lt

def le (x y : Binary64) : Bool := x.compare? y == some .lt || x.compare? y == some .eq

/-- Equality of values: the two zeros are equal, not-a-number equals nothing. -/
def eqv (x y : Binary64) : Bool := x.compare? y == some .eq

/-- The integer left when the fraction is dropped. -/
def truncate? : Binary64 → Option Int
  | x@(.finite ..) => some (x.units.tdiv unitsPerOne)
  | _ => none

def round? : Binary64 → Option Int
  | x@(.finite negative _ _) =>
    let magnitude : Int := roundQuotient x.units.natAbs unitsPerOne
    some (if negative then -magnitude else magnitude)
  | _ => none

def isInteger : Binary64 → Bool
  | x@(.finite ..) => x.units.natAbs % unitsPerOne == 0
  | _ => false

def hundred : Binary64 := ofInt 100

end Binary64

end RequestBreakdown
