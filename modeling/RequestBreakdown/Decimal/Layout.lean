import RequestBreakdown.Decimal.Shortest

/-!
# Layouts of decimals

A decimal is written with its point in place, or with an exponent when the
point would stand too far from the digits.  The layouts of this library differ
in where the exponent starts and in whether a whole number keeps `.0`.
-/

namespace RequestBreakdown

/-- Which points are written in place, and how whole numbers end. -/
structure DecimalLayout where
  /-- The least point written in place. -/
  minPoint : Int
  /-- The greatest point written in place. -/
  maxPoint : Int
  /-- What a number without fraction ends in. -/
  wholeSuffix : String
  deriving DecidableEq, Repr

namespace DecimalLayout

/-- Values are written with all digits, in place from `0.0001` up to below
`10 ^ 16`, and whole ones end in `.0`. -/
def value : DecimalLayout := ⟨-3, 16, ".0"⟩

/-- Compact numbers keep six digits and are written in place from `0.0001` up
to below `10 ^ 6`. -/
def compact : DecimalLayout := ⟨-3, 6, ""⟩

def compactDigits : Nat := 6

def zeros (n : Nat) : String := String.ofList (List.replicate n '0')

/-- The exponent with its sign and at least two digits. -/
def exponentText (e : Int) : String :=
  let digits := toString e.natAbs
  let padded := if digits.length < 2 then "0" ++ digits else digits
  (if e < 0 then "e-" else "e+") ++ padded

def write (layout : DecimalLayout) (d : Decimal) : String :=
  let digits := toString d.digits
  let count : Int := digits.length
  if d.point < layout.minPoint ∨ layout.maxPoint < d.point then
    let fraction := digits.drop 1
    (digits.take 1).toString ++ (if fraction.isEmpty then "" else "." ++ fraction.toString)
      ++ exponentText (d.point - 1)
  else if d.point ≤ 0 then "0." ++ zeros (-d.point).toNat ++ digits
  else if count ≤ d.point then digits ++ zeros (d.point - count).toNat ++ layout.wholeSuffix
  else (digits.take d.point.toNat).toString ++ "." ++ (digits.drop d.point.toNat).toString

end DecimalLayout

namespace Binary64

def signText (negative : Bool) : String := if negative then "-" else ""

/-- A magnitude laid out with its sign; not-a-number has none. -/
def write (x : Binary64) (layout : DecimalLayout) (decimal : Nat → Int → Decimal) : String :=
  match x with
  | .nan => "nan"
  | .infinite negative => signText negative ++ "inf"
  | .finite negative mantissa exponent =>
    signText negative ++
      if mantissa = 0 then "0" ++ layout.wholeSuffix else layout.write (decimal mantissa exponent)

/-- All the digits needed to read the number back, and no more. -/
def text (x : Binary64) : String := x.write .value Decimal.shortest

/-- At most six digits, without trailing zeros. -/
def compactText (x : Binary64) : String :=
  x.write .compact fun mantissa exponent =>
    let (num, den) :=
      if 0 ≤ exponent then (mantissa * twoTo exponent.toNat, 1) else (mantissa, twoTo (-exponent).toNat)
    Decimal.rounded num den DecimalLayout.compactDigits

/-- A fixed number of places after the point, a half going to the even digit. -/
def placesText (x : Binary64) (places : Nat) : String :=
  match x with
  | .nan => "nan"
  | .infinite negative => signText negative ++ "inf"
  | .finite negative _ _ =>
    let scaled := roundQuotient (x.units.natAbs * tenTo places) unitsPerOne
    let digits := toString scaled
    let padded := DecimalLayout.zeros (places + 1 - digits.length) ++ digits
    let whole := padded.length - places
    signText negative ++ (padded.take whole).toString ++
      (if places = 0 then "" else "." ++ (padded.drop whole).toString)

end Binary64

end RequestBreakdown
