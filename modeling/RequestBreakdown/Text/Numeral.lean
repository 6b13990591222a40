import RequestBreakdown.Binary64.Basic
import RequestBreakdown.Text.Blank
import RequestBreakdown.Text.Digit

/-!
# Numerals

Reading integers and binary64 numbers from text.  Blanks may surround a
numeral, its digits may be of any script, and a single underscore may stand
between two digits.  Integers have a greatest length, numbers have none.
-/

namespace RequestBreakdown.Text

/-- The text of a numeral without blanks around it, its digits made plain. -/
def numeralChars (s : String) : List Char :=
  trimBy isNumberBlank (s.toList.map fun c => (plainDigit? c).getD c)

/-- The sign in front, and what follows it. -/
def takeSign : List Char → Bool × List Char
  | '-' :: rest => (true, rest)
  | '+' :: rest => (false, rest)
  | cs => (false, cs)

/-- The text without underscores, when each stands between two digits. -/
def dropUnderscores? : List Char → Option (List Char)
  | [] => some []
  | '_' :: _ => none
  | c :: '_' :: d :: rest =>
    if c.isDigit && d.isDigit then (dropUnderscores? (d :: rest)).map (c :: ·) else none
  | c :: rest => (dropUnderscores? rest).map (c :: ·)

def digitsValue (cs : List Char) : Nat := Nat.ofDigitChars 10 cs 0

/-- What keeps a text from being an integer. -/
inductive IntegerFault where
  | malformed
  | tooLong (digits : Nat)
  deriving DecidableEq, Repr

/-- Integers of more digits than this are not read. -/
def maxIntegerDigits : Nat := 4300

def isDigitOrUnderscore (c : Char) : Bool := c.isDigit || c == '_'

/-- An integer in decimal digits.  A numeral that begins well and is too long is
reported as such, whatever follows it. -/
def readInteger (s : String) : Except IntegerFault Int :=
  let (negative, body) := takeSign (numeralChars s)
  match dropUnderscores? (body.takeWhile isDigitOrUnderscore) with
  | none => .error .malformed
  | some digits =>
    if maxIntegerDigits < digits.length then .error (.tooLong digits.length)
    else if digits.isEmpty || !(body.all isDigitOrUnderscore) then .error .malformed
    else
      let magnitude : Int := digitsValue digits
      .ok (if negative then -magnitude else magnitude)

def readInt? (s : String) : Option Int := (readInteger s).toOption

def spanDigits (cs : List Char) : List Char × List Char :=
  (cs.takeWhile Char.isDigit, cs.dropWhile Char.isDigit)

/-- An exponent mark with its number, or nothing. -/
def readExponent? : List Char → Option Int
  | [] => some 0
  | c :: rest =>
    if c = 'e' ∨ c = 'E' then
      let (negative, digits) := takeSign rest
      if !digits.isEmpty && digits.all Char.isDigit then
        let magnitude : Int := digitsValue digits
        some (if negative then -magnitude else magnitude)
      else none
    else none

/-- Decimals this far above or below one are beyond every finite number. -/
def decimalReach : Int := 400

/-- The number nearest to `± digits * 10 ^ exponent`. -/
def ofDecimal (negative : Bool) (digits : List Char) (exponent : Int) : Binary64 :=
  let significant := digits.dropWhile (· == '0')
  let order := significant.length + exponent
  if significant.isEmpty || decide (order < -decimalReach) then .finite negative 0 Binary64.minExponent
  else if decimalReach < order then .infinite negative
  else if 0 ≤ exponent then
    Binary64.ofRatio negative (digitsValue significant * tenTo exponent.toNat) 1
  else Binary64.ofRatio negative (digitsValue significant) (tenTo (-exponent).toNat)

/-- Digits with an optional fraction and exponent, at least one digit in all. -/
def readDecimal? (negative : Bool) (cs : List Char) : Option Binary64 := do
  let (whole, rest) := spanDigits cs
  let (fraction, rest) := match rest with
    | '.' :: rest => spanDigits rest
    | rest => ([], rest)
  guard (!(whole ++ fraction).isEmpty)
  let exponent ← readExponent? rest
  return ofDecimal negative (whole ++ fraction) (exponent - fraction.length)

/-- A number: a decimal, or a name of infinity or not-a-number in any case. -/
def readNumber? (s : String) : Option Binary64 := do
  let body ← dropUnderscores? (numeralChars s)
  let (negative, magnitude) := takeSign body
  let name := String.ofList (magnitude.map Char.toLower)
  if name = "inf" ∨ name = "infinity" then return .infinite negative
  if name = "nan" then return .nan
  readDecimal? negative magnitude

end RequestBreakdown.Text
