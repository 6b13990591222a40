import RequestBreakdown.Text.Blank
import RequestBreakdown.Text.Digit
import RequestBreakdown.Time.Timestamp

/-!
# Reading timestamps

ISO 8601 timestamps in basic and extended form, with calendar or week dates, any
character between date and time, a fraction of which six digits count, and an
optional offset.  A null character ends a clock time.
-/

namespace RequestBreakdown

namespace IsoText

/-- A number of exactly `count` plain digits in front. -/
def takeDigits? : Nat → List Char → Option (Nat × List Char) :=
  let rec go (acc : Nat) : Nat → List Char → Option (Nat × List Char)
    | 0, cs => some (acc, cs)
    | count + 1, c :: rest =>
      if c.isDigit then go (acc * 10 + (c.toNat - '0'.toNat)) count rest else none
    | _ + 1, [] => none
  go 0

/-- Where the date ends, the separator after it being any character.  After a
week date the reading in which a hyphen separates the time is preferred. -/
def dateLength? (cs : List Char) : Option Nat :=
  let length := cs.length
  let isDash (i : Nat) : Bool := cs[i]? == some '-'
  let isWeek (i : Nat) : Bool := cs[i]? == some 'W'
  if length = 7 then some 7
  else if isDash 4 then
    if isWeek 5 then
      if length < 8 then none
      else if isDash 8 then
        if length = 9 then none
        else if (cs[10]?.map Char.isDigit).getD false then some 8
        else some 10
      else some 8
    else some 10
  else if isWeek 4 then
    let stop := 7 + ((cs.drop 7).takeWhile Char.isDigit).length
    if stop < 9 then some stop
    else if stop % 2 = 0 then some 7
    else some 8
  else some 8

/-- The calendar date of a day of an ISO week. -/
def ofWeek? (year week day : Nat) : Option CivilDate := do
  guard (1 ≤ week ∧ (week < 53 ∨ (week = 53 ∧ hasLongIsoYear year)))
  guard (1 ≤ day ∧ day ≤ 7)
  guard (1 ≤ year)
  let number := firstIsoMonday year + (week - 1 : Nat) * 7 + (day - 1 : Nat)
  guard (0 ≤ number)
  let date := CivilDate.ofDayNumber number.toNat
  guard date.isValid
  return date

def readDate? (cs : List Char) : Option CivilDate := do
  let (year, rest) ← takeDigits? 4 cs
  let (dashed, rest) := match rest with
    | '-' :: rest => (true, rest)
    | rest => (false, rest)
  match rest with
  | 'W' :: rest =>
    let (week, rest) ← takeDigits? 2 rest
    match rest with
    | [] => ofWeek? year week 1
    | c :: tail =>
      let rest ← if dashed then (if c = '-' then some tail else none) else some (c :: tail)
      let (day, _) ← takeDigits? 1 rest
      ofWeek? year week day
  | rest =>
    let (month, rest) ← takeDigits? 2 rest
    let rest ← if dashed then (match rest with
      | '-' :: rest => some rest
      | _ => none) else some rest
    let (day, rest) ← takeDigits? 2 rest
    guard rest.isEmpty
    let date : CivilDate := ⟨year, month, day⟩
    guard date.isValid
    return date

/-- A time of day. -/
structure Clock where
  hour : Nat
  minute : Nat
  second : Nat
  micro : Nat
  deriving DecidableEq, Repr

/-- Whether the text stops here. -/
def isEnd : List Char → Bool
  | [] => true
  | c :: _ => c == '\x00'

/-- A fraction, of which six digits count, and whether its digits are followed by
anything. -/
def readFraction? (cs : List Char) : Option (Nat × Bool) := do
  let counted := min 6 cs.length
  let (value, rest) ← takeDigits? counted cs
  return (value * tenTo (6 - counted), !isEnd (rest.dropWhile Char.isDigit))

/-- What follows a field of a clock time. -/
inductive AfterField where
  /-- Nothing, or one ASCII character that only an offset can excuse. -/
  | stop (left : Bool)
  | field (rest : List Char)
  | fraction (rest : List Char)
  | refused
  deriving DecidableEq, Repr

/-- Colons stand between all fields or between none; a decimal mark may follow
any field. -/
def afterField (colons : Bool) : List Char → AfterField
  | [] => .stop false
  | [c] => if c.toNat < 0x80 then .stop (!isEnd [c]) else .refused
  | c :: rest =>
    if colons && c = ':' then .field rest
    else if c = '.' || c = ',' then .fraction rest
    else if colons then .refused
    else .field (c :: rest)

/-- A clock time, and whether characters are left over that only an offset
after them can excuse. -/
def readClock? (cs : List Char) : Option (Clock × Bool) := do
  let (hour, rest) ← takeDigits? 2 cs
  let colons := rest.head? == some ':'
  match afterField colons rest with
  | .stop left => return (⟨hour, 0, 0, 0⟩, left)
  | .refused => none
  | .fraction rest =>
    let (micro, left) ← readFraction? rest
    return (⟨hour, 0, 0, micro⟩, left)
  | .field rest =>
    let (minute, rest) ← takeDigits? 2 rest
    match afterField colons rest with
    | .stop left => return (⟨hour, minute, 0, 0⟩, left)
    | .refused => none
    | .fraction rest =>
      let (micro, left) ← readFraction? rest
      return (⟨hour, minute, 0, micro⟩, left)
    | .field rest =>
      let (second, rest) ← takeDigits? 2 rest
      match afterField colons rest with
      | .stop left => return (⟨hour, minute, second, 0⟩, left)
      | .refused => none
      | .fraction rest | .field rest =>
        let (micro, left) ← readFraction? rest
        return (⟨hour, minute, second, micro⟩, left)

def isOffsetSign (c : Char) : Bool := c = '+' || c = '-' || c = 'Z'

/-- A clock time with its offset in microseconds.  An offset below one second is none
at all: the clock shows universal time. -/
def readTime? (cs : List Char) : Option (Clock × Option Int) := do
  let front := cs.takeWhile (!isOffsetSign ·)
  match cs.dropWhile (!isOffsetSign ·) with
  | [] =>
    let (clock, left) ← readClock? front
    guard (!left)
    return (clock, none)
  | sign :: rest =>
    let (clock, _) ← readClock? front
    if sign = 'Z' then
      guard (isEnd rest)
      return (clock, some 0)
    let (ahead, left) ← readClock? rest
    guard (!left)
    let seconds := ahead.hour * 3600 + ahead.minute * 60 + ahead.second
    let micros : Int := if seconds = 0 then 0 else seconds * microsPerSecond + ahead.micro
    guard (micros < microsPerDay)
    return (clock, some (if sign = '-' then -micros else micros))

def Clock.isValid (c : Clock) : Bool := decide (c.hour < 24 ∧ c.minute < 60 ∧ c.second < 60)

def Clock.ticks (c : Clock) : Nat :=
  (c.hour * 3600 + c.minute * 60 + c.second) * microsPerSecond + c.micro

end IsoText

namespace Timestamp

def ofParts (date : CivilDate) (clockTicks : Nat) (offset : Option Int) : Timestamp :=
  ⟨date.dayNumber * microsPerDay + clockTicks, offset⟩

/-- An ISO 8601 timestamp; a date alone is its midnight. -/
def readIso? (s : String) : Option Timestamp := do
  let cs := s.toList
  guard (7 ≤ cs.length)
  let dateLength ← IsoText.dateLength? cs
  let date ← IsoText.readDate? (cs.take dateLength)
  match cs.drop dateLength with
  | [] => return ofParts date 0 none
  | _ :: rest =>
    let (clock, offset) ← IsoText.readTime? rest
    guard clock.isValid
    return ofParts date clock.ticks offset

end Timestamp

end RequestBreakdown
