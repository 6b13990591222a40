/-!
# Calendar

Days of the Gregorian calendar, carried back without a break to the year 1.
Day number 0 is the first of January of that year.  A date is found from a day
number by taking off whole years and then whole months, so that putting it
together again gives the day number.
-/

namespace RequestBreakdown

def isLeapYear (year : Nat) : Bool :=
  year % 4 == 0 && (year % 100 != 0 || year % 400 == 0)

/-- Days before the first of January of a year. -/
def daysBeforeYear (year : Nat) : Nat :=
  let past := year - 1
  past * 365 + past / 4 - past / 100 + past / 400

def monthLengths (year : Nat) : List Nat :=
  [31, if isLeapYear year then 29 else 28, 31, 30, 31, 30, 31, 31, 30, 31, 30, 31]

def monthLength (year month : Nat) : Nat := (monthLengths year).getD (month - 1) 0

def daysBeforeMonth (year month : Nat) : Nat :=
  ((monthLengths year).take (month - 1)).foldl (· + ·) 0

structure CivilDate where
  year : Nat
  month : Nat
  day : Nat
  deriving DecidableEq, Repr

namespace CivilDate

def minYear : Nat := 1

def maxYear : Nat := 9999

def isValid (d : CivilDate) : Bool :=
  decide (minYear ≤ d.year ∧ d.year ≤ maxYear ∧ 1 ≤ d.month ∧ d.month ≤ 12 ∧
    1 ≤ d.day ∧ d.day ≤ monthLength d.year d.month)

def dayNumber (d : CivilDate) : Nat :=
  daysBeforeYear d.year + daysBeforeMonth d.year d.month + (d.day - 1)

/-- The year that a day lies in: an estimate from the mean length of a year,
moved by one where it misses. -/
def yearOfDay (n : Nat) : Nat :=
  let estimate := n * 400 / 146097 + 1
  if n < daysBeforeYear estimate then estimate - 1
  else if daysBeforeYear (estimate + 1) ≤ n then estimate + 1
  else estimate

/-- The month and day of the month of a day counted from the first of the months given. -/
def monthAndDay : List Nat → Nat → Nat → Nat × Nat
  | [], month, rest => (month, rest + 1)
  | [_], month, rest => (month, rest + 1)
  | length :: lengths, month, rest =>
    if rest < length then (month, rest + 1) else monthAndDay lengths (month + 1) (rest - length)

def ofDayNumber (n : Nat) : CivilDate :=
  let year := yearOfDay n
  let (month, day) := monthAndDay (monthLengths year) 1 (n - daysBeforeYear year)
  ⟨year, month, day⟩

end CivilDate

/-- The day of the week, Monday being 0. -/
def weekdayOfDay (n : Nat) : Nat := n % 7

/-- The Monday that starts the first ISO week of a year: the week of its first
Thursday. It may lie before day 0. -/
def firstIsoMonday (year : Nat) : Int :=
  let first := daysBeforeYear year
  let weekday := weekdayOfDay first
  let monday : Int := (first : Int) - weekday
  if 3 < weekday then monday + 7 else monday

/-- Years that start on a Thursday, and leap years that start on a Wednesday, have 53 weeks. -/
def hasLongIsoYear (year : Nat) : Bool :=
  let weekday := weekdayOfDay (daysBeforeYear year)
  weekday == 3 || (weekday == 2 && isLeapYear year)

end RequestBreakdown
