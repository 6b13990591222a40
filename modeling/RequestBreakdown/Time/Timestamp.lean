import RequestBreakdown.Fault
import RequestBreakdown.Binary64.Basic
import RequestBreakdown.Time.Calendar

/-!
# Timestamps and durations

A timestamp is a wall-clock time in microseconds since the start of the year 1,
with the offset of the clock where it is known.  Times with and without an
offset cannot be compared or subtracted.
-/

namespace RequestBreakdown

def microsPerSecond : Nat := 1000000

def microsPerDay : Nat := 86400 * microsPerSecond

/-- A length of time in microseconds. -/
structure Duration where
  micros : Int
  deriving DecidableEq, Repr, Inhabited

namespace Duration

/-- Durations have at most this many days on either side of zero. -/
def maxDays : Int := 999999999

def days (d : Duration) : Int := d.micros / microsPerDay

def secondsOfDay (d : Duration) : Int := d.micros % microsPerDay / microsPerSecond

def microsOfSecond (d : Duration) : Int := d.micros % microsPerSecond

def checked (micros : Int) : Except Fault Duration :=
  let d : Duration := ⟨micros⟩
  if -maxDays ≤ d.days ∧ d.days ≤ maxDays then .ok d else .error (.range .duration)

/-- Whole seconds count exactly; the fraction is first taken to microseconds in
binary64 and then rounded, a half to the even one. -/
def ofSeconds (seconds : Binary64) : Except Fault Duration :=
  match seconds.truncate? with
  | none => .error (if seconds.isNaN then .input .notANumber else .range .infinityToInteger)
  | some whole =>
    let fraction := seconds.sub (Binary64.ofInt whole)
    let micros := ((fraction.mul (Binary64.ofInt microsPerSecond)).round?).getD 0
    checked (whole * microsPerSecond + micros)

def ofMillis (millis : Int) : Duration := ⟨millis * 1000⟩

/-- Whole milliseconds, through seconds in binary64, the fraction dropped. -/
def millis (d : Duration) : Int :=
  let seconds := Binary64.ofIntRatio d.micros microsPerSecond
  ((seconds.mul (Binary64.ofInt 1000)).truncate?).getD 0

end Duration

structure Timestamp where
  /-- Microseconds of the wall clock since the start of the year 1. -/
  ticks : Nat
  /-- Microseconds by which the wall clock is ahead of universal time. -/
  offset : Option Int := none
  deriving DecidableEq, Repr, Inhabited

namespace Timestamp

/-- The first tick after the last day of the year 9999. -/
def tickLimit : Nat := daysBeforeYear (CivilDate.maxYear + 1) * microsPerDay

def ofTicks (ticks : Int) (offset : Option Int) : Except Fault Timestamp :=
  if 0 ≤ ticks ∧ ticks < tickLimit then .ok ⟨ticks.toNat, offset⟩ else .error (.range .date)

def date (t : Timestamp) : CivilDate := CivilDate.ofDayNumber (t.ticks / microsPerDay)

def secondOfDay (t : Timestamp) : Nat := t.ticks % microsPerDay / microsPerSecond

def hour (t : Timestamp) : Nat := t.secondOfDay / 3600

def minute (t : Timestamp) : Nat := t.secondOfDay / 60 % 60

def second (t : Timestamp) : Nat := t.secondOfDay % 60

def microsecond (t : Timestamp) : Nat := t.ticks % microsPerSecond

def floorSecond (t : Timestamp) : Timestamp := { t with ticks := t.ticks - t.microsecond }

def addMicros (t : Timestamp) (micros : Int) : Except Fault Timestamp :=
  ofTicks (t.ticks + micros) t.offset

def sub (t : Timestamp) (d : Duration) : Except Fault Timestamp := t.addMicros (-d.micros)

def add (t : Timestamp) (d : Duration) : Except Fault Timestamp := t.addMicros d.micros

def universal (t : Timestamp) : Int := t.ticks - t.offset.getD 0

/-- The time from `earlier` to `t`, when both or neither have an offset. -/
def since (t earlier : Timestamp) : Except Fault Duration :=
  if t.offset.isSome == earlier.offset.isSome then .ok ⟨t.universal - earlier.universal⟩
  else .error (.operand .mixedOffsetsSubtracted)

def le (t u : Timestamp) : Except Fault Bool :=
  if t.offset.isSome == u.offset.isSome then .ok (decide (t.universal ≤ u.universal))
  else .error (.operand .mixedOffsetsCompared)

/-- The moment of a time with an offset, the same for all equal times.  It is taken a day
later, so that it never lies before the first tick. -/
def moment (t : Timestamp) : Timestamp :=
  match t.offset with
  | some _ => ⟨(t.universal + microsPerDay).toNat, some 0⟩
  | none => t

/-- Decimal digits, filled with zeros on the left. -/
def padded (width n : Nat) : String :=
  let digits := toString n
  "".pushn '0' (width - digits.length) ++ digits

/-- The offset in hours and minutes, with seconds and their fraction where needed. -/
def offsetText (offset : Int) : String :=
  let magnitude := offset.natAbs
  let seconds := magnitude / microsPerSecond
  let micros := magnitude % microsPerSecond
  (if offset < 0 then "-" else "+") ++ padded 2 (seconds / 3600) ++ ":" ++ padded 2 (seconds / 60 % 60)
    ++ (if seconds % 60 = 0 ∧ micros = 0 then "" else ":" ++ padded 2 (seconds % 60))
    ++ (if micros = 0 then "" else "." ++ padded 6 micros)

def clockText (t : Timestamp) : String :=
  padded 2 t.hour ++ ":" ++ padded 2 t.minute ++ ":" ++ padded 2 t.second

/-- ISO 8601 text with the given character between date and time. -/
def isoText (t : Timestamp) (separator : String := "T") : String :=
  let d := t.date
  padded 4 d.year ++ "-" ++ padded 2 d.month ++ "-" ++ padded 2 d.day ++ separator ++ t.clockText
    ++ (if t.microsecond = 0 then "" else "." ++ padded 6 t.microsecond)
    ++ (match t.offset with
        | some offset => offsetText offset
        | none => "")

/-- The literal that statements hold: seconds without fraction or offset, the
year with as many digits as it has. -/
def literalText (t : Timestamp) : String :=
  let d := t.date
  toString d.year ++ "-" ++ padded 2 d.month ++ "-" ++ padded 2 d.day ++ " " ++ t.clockText

/-- The parts of an offset that are not zero, by name. -/
def offsetParts (offset : Int) : List String :=
  let d : Duration := ⟨offset⟩
  let parts := [("days", d.days), ("seconds", d.secondsOfDay), ("microseconds", d.microsOfSecond)]
  (parts.filter (·.2 != 0)).map fun (name, n) => name ++ "=" ++ toString n

def zoneText (offset : Int) : String :=
  if offset = 0 then "datetime.timezone.utc"
  else "datetime.timezone(datetime.timedelta(" ++ ", ".intercalate (offsetParts offset) ++ "))"

/-- The time as it is written inside other values: its numbers down to the minute, then
those that are not zero or followed by one that is not, then its offset. -/
def partsText (t : Timestamp) : String :=
  let d := t.date
  let fine := if t.microsecond = 0 then (if t.second = 0 then [] else [t.second])
    else [t.second, t.microsecond]
  let numbers := ([d.year, d.month, d.day, t.hour, t.minute] ++ fine).map toString
  let zone := (t.offset.map fun offset => "tzinfo=" ++ zoneText offset).toList
  "datetime.datetime(" ++ ", ".intercalate (numbers ++ zone) ++ ")"

end Timestamp

end RequestBreakdown
