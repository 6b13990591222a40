import RequestBreakdown.Text.Letter
import RequestBreakdown.Value.Use

/-!
# Escape sequences

Sequences of characters that a terminal acts upon and does not show: control
sequences, which show nothing, and links, of which the text is shown.
-/

namespace RequestBreakdown

namespace Escape

def escapeChar : Char := '\x1b'

def isBetween (low high : Nat) (c : Char) : Bool := decide (low ≤ c.toNat ∧ c.toNat ≤ high)

/-- What comes after a text that stands in front. -/
def after? (front : String) (cs : List Char) : Option (List Char) :=
  if front.toList.isPrefixOf cs then some (cs.drop front.length) else none

/-- What follows a control sequence: parameters, then further marks, then its last character. -/
def dropControl? (cs : List Char) : Option (List Char) := do
  let rest ← after? "\x1b[" cs
  match (rest.dropWhile (isBetween 0x30 0x3f)).dropWhile (isBetween 0x20 0x2f) with
  | final :: rest => if isBetween 0x40 0x7e final then some rest else none
  | [] => none

/-- A point in the parameters of a link. -/
inductive LinkPoint where
  | start
  | key
  | equals
  | value
  deriving DecidableEq, Repr

namespace LinkPoint

/-- The points that a character may lead to; a value may end where the next key begins. -/
def next (c : Char) : LinkPoint → List LinkPoint
  | .start => if Text.isWordCharacter c then [.key] else []
  | .key => if c = '=' then [.equals] else if Text.isWordCharacter c then [.key] else []
  | .equals => if Text.isWordCharacter c then [.value] else []
  | .value => if c = ':' then [.start] else if Text.isWordCharacter c then [.value, .key] else []

end LinkPoint

/-- Whether the text is a row of keys with their values, perhaps with a colon behind each. -/
def areLinkParameters (cs : List Char) : Bool :=
  let points := cs.foldl (fun points c => (points.flatMap (LinkPoint.next c)).eraseDups) [.start]
  points.contains .start || points.contains .value

/-- What stands before the next escape, if that is anything, and the escape with the rest. -/
def beforeEscape? (cs : List Char) : Option (List Char × List Char) :=
  let front := cs.takeWhile (· != escapeChar)
  if front.isEmpty then none else some (front, cs.drop front.length)

/-- The text of a link, and what follows the link. -/
def takeLink? (cs : List Char) : Option (List Char × List Char) := do
  let rest ← after? "\x1b]8;" cs
  let parameters := rest.takeWhile (· != ';')
  if areLinkParameters parameters then
    let rest ← after? ";" (rest.drop parameters.length)
    let (_, rest) ← beforeEscape? rest
    let rest ← after? "\x1b\\" rest
    let (text, rest) ← beforeEscape? rest
    let rest ← after? "\x1b]8;;\x1b\\" rest
    return (text, rest)
  else none

/-- What a sequence in front shows, and what follows the sequence. -/
def takeSequence? (cs : List Char) : Option (List Char × List Char) :=
  match dropControl? cs with
  | some rest => some ([], rest)
  | none => takeLink? cs

/-- The characters that are shown, after some that are part of a sequence. -/
def visibleAfter : Nat → List Char → List Char
  | _, [] => []
  | hidden + 1, _ :: rest => visibleAfter hidden rest
  | 0, c :: rest =>
    match takeSequence? (c :: rest) with
    | some (shown, others) => shown ++ visibleAfter (rest.length - others.length) rest
    | none => c :: visibleAfter 0 rest

/-- What a terminal shows of a text. -/
def visible (s : String) : String := String.ofList (visibleAfter 0 s.toList)

def occursInChars : List Char → Bool
  | [] => false
  | c :: rest => (takeSequence? (c :: rest)).isSome || occursInChars rest

def occursIn (s : String) : Bool := occursInChars s.toList

/-! ### Numbers behind a setting

A setting is a character without a plain form, perhaps some hexadecimal digits, and the
codes of a control sequence.  The character may be typed out as a backslash, an `x` and
the two hexadecimal digits of its code.
-/

/-- Whether the character has a form of its own in plain text. -/
def isPlain (c : Char) : Bool := isBetween 0x20 0x7e c && c != '\\'

/-- Whether the character is written with a backslash and one letter or mark. -/
def isNamed (c : Char) : Bool := c = '\\' || c = '\t' || c = '\n' || c = '\r'

/-- Whether the character can only be written by its code, in two hexadecimal digits. -/
def isCoded (c : Char) : Bool := c.toNat < 0x100 && !isPlain c && !isNamed c

def hexValue? (c : Char) : Option Nat :=
  ("0123456789abcdef".toList.findIdx? (· == c)).orElse fun _ =>
    "0123456789ABCDEF".toList.findIdx? (· == c)

def takeHex (cs : List Char) : List Char := cs.takeWhile fun c => (hexValue? c).isSome

/-- How a setting begins. -/
inductive SettingStart where
  | coded (c : Char) (hex : List Char)
  | typed (marks hex : List Char)
  deriving DecidableEq, Repr

namespace SettingStart

/-- The last character of what is typed out that was read before it made no sense. -/
def lastRead (marks : List Char) : Nat := if marks.length = 1 then 2 else 1

/-- The characters meant.  After a capital `X` nothing is read as a code. -/
def meaning : SettingStart → Except Fault (List Char)
  | .coded c hex => .ok (c :: hex)
  | .typed ('X' :: marks) hex => .ok ('\\' :: 'X' :: marks ++ hex)
  | .typed marks hex =>
    match marks, hex.filterMap hexValue? with
    | ['x'], a :: b :: _ => .ok (Char.ofNat (16 * a + b) :: hex.drop 2)
    | _, _ => .error (.input (.cutCode (lastRead marks)))

/-- The start of a setting in front, and what follows it. -/
def take? : List Char → Option (SettingStart × List Char)
  | [] => none
  | c :: rest =>
    if c = '\\' then
      let marks := rest.takeWhile fun c => c == 'x' || c == 'X'
      let hex := takeHex (rest.drop marks.length)
      if marks.isEmpty || hex.isEmpty then none
      else some (.typed marks hex, rest.drop (marks.length + hex.length))
    else if isCoded c then
      let hex := takeHex rest
      some (.coded c hex, rest.drop hex.length)
    else none

end SettingStart

/-- A number behind a setting. -/
structure SetNumber where
  start : SettingStart
  /-- The codes between the start and the digits. -/
  codes : List Char
  digits : List Char
  rest : List Char
  deriving DecidableEq, Repr

namespace SetNumber

/-- A number in front with a single setting before it, behind which a character without
a plain form follows. -/
def take? (cs : List Char) : Option SetNumber := do
  let (start, rest) ← SettingStart.take? cs
  let rest ← after? "[" rest
  let codes := rest.takeWhile Char.isDigit
  let marks := (rest.drop codes.length).takeWhile fun c => c == 'm' || c == 'M'
  let rest := rest.drop (codes.length + marks.length)
  let digits := rest.takeWhile fun c => c.isDigit || c == '.'
  let rest := rest.drop digits.length
  if codes.isEmpty || marks.isEmpty || digits.isEmpty || (rest.head?.map isPlain).getD true then none
  else some { start, codes := '[' :: codes ++ marks, digits, rest }

/-- The first number with a single setting before it. -/
def find? : List Char → Option SetNumber
  | [] => none
  | c :: rest => (take? (c :: rest)).orElse fun _ => find? rest

/-- The number written anew behind its setting. -/
def text (n : SetNumber) : Except Fault String := do
  let value ← (Value.text (String.ofList n.digits)).toInt
  let start ← n.start.meaning
  return String.ofList (start ++ n.codes) ++ toString value ++ String.ofList n.rest

end SetNumber

end Escape

end RequestBreakdown
