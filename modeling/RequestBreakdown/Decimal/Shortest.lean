import RequestBreakdown.Binary64.Basic

/-!
# Shortest decimals

The shortest decimal that reads back as a given binary64 number.  For one,
two, up to seventeen digits the two decimals of that many digits next to the
value are tested against the interval of reals that round to it; the first
count of digits with a hit wins, and of two hits the nearer one.
-/

namespace RequestBreakdown

/-- The decimal `0.d₁d₂… * 10 ^ point`, its digits written as one natural. -/
structure Decimal where
  digits : Nat
  point : Int
  deriving DecidableEq, Repr

namespace Decimal

/-- The number of decimal digits of a natural; zero has one. -/
def digitCount (n : Nat) : Nat := (Nat.toDigits 10 n).length

/-- Trailing zeros carry no information: `1200` and `12` are the same digits. -/
def trimZeros (n : Nat) : Nat :=
  if n ≠ 0 ∧ n % 10 = 0 then trimZeros (n / 10) else n
termination_by n
decreasing_by omega

/-- The decimal point of the quotient: `10 ^ (point - 1) ≤ num / den < 10 ^ point`. -/
def pointOf (num den : Nat) : Int :=
  if den ≤ num then (digitCount (num / den) : Int)
  else
    -- `den / num` is above one; its digits count how far the point moves left
    let inverse := digitCount ((den - 1) / num)
    1 - (inverse : Int)

/-- The quotient on the grid of multiples of `10 ^ unit`, as a quotient of naturals. -/
def onGrid (num den : Nat) (unit : Int) : Nat × Nat :=
  if 0 ≤ unit then (num, den * tenTo unit.toNat) else (num * tenTo (-unit).toNat, den)

/-- The reals that round to `mantissa * 2 ^ exponent`.  The ends are counted in
quarters of the last place and belong to the interval when the mantissa is even. -/
structure RoundingInterval where
  mantissa : Nat
  exponent : Int
  deriving DecidableEq, Repr

namespace RoundingInterval

/-- Below a power of two the numbers lie twice as close. -/
def isPowerEdge (i : RoundingInterval) : Bool :=
  i.mantissa == twoTo 52 && decide (Binary64.minExponent < i.exponent)

def quarters (i : RoundingInterval) : Nat := 4 * i.mantissa

def lowQuarters (i : RoundingInterval) : Nat :=
  if i.isPowerEdge then i.quarters - 1 else i.quarters - 2

def highQuarters (i : RoundingInterval) : Nat := i.quarters + 2

/-- Whether `multiple * 10 ^ unit` rounds to the number. -/
def holds (i : RoundingInterval) (multiple : Nat) (unit : Int) : Bool :=
  -- both sides are brought to integers by the powers of two and ten they lack
  let decimal := multiple * tenTo unit.toNat * twoTo (2 - i.exponent).toNat
  let scale := tenTo (-unit).toNat * twoTo (i.exponent - 2).toNat
  let low := i.lowQuarters * scale
  let high := i.highQuarters * scale
  if i.mantissa % 2 = 0 then decide (low ≤ decimal ∧ decimal ≤ high)
  else decide (low < decimal ∧ decimal < high)

end RoundingInterval

/-- The decimal of `count` digits that rounds to the number, if there is one. -/
def withDigits? (num den : Nat) (point : Int) (i : RoundingInterval) (count : Nat) : Option Decimal :=
  let unit := point - count
  let (top, bottom) := onGrid num den unit
  let below := top / bottom
  let remainder := top % bottom
  let lowHit := i.holds below unit
  let highHit := i.holds (below + 1) unit
  let chosen? : Option Nat :=
    if lowHit && highHit then
      if 2 * remainder < bottom then some below
      else if bottom < 2 * remainder then some (below + 1)
      else some (if below % 2 = 0 then below else below + 1)
    else if lowHit then some below
    else if highHit then some (below + 1)
    else none
  chosen?.map fun multiple =>
    { digits := trimZeros multiple, point := point - count + digitCount multiple }

/-- The decimal with the fewest digits that rounds to `mantissa * 2 ^ exponent`. -/
def shortest (mantissa : Nat) (exponent : Int) : Decimal :=
  let (num, den) :=
    if 0 ≤ exponent then (mantissa * twoTo exponent.toNat, 1) else (mantissa, twoTo (-exponent).toNat)
  let point := pointOf num den
  let counts := (List.range 17).map (· + 1)
  (counts.findSome? (withDigits? num den point ⟨mantissa, exponent⟩)).getD ⟨0, 1⟩

/-- The decimal with `count` digits nearest to `num / den`, a tie going to the
even digit. -/
def rounded (num den : Nat) (count : Nat) : Decimal :=
  if num = 0 then ⟨0, 1⟩
  else
    let point := pointOf num den
    let unit := point - count
    let (top, bottom) := onGrid num den unit
    let multiple := roundQuotient top bottom
    { digits := trimZeros multiple, point := unit + digitCount multiple }

end Decimal

end RequestBreakdown
