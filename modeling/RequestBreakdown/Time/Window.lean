import RequestBreakdown.Time.Spec
import RequestBreakdown.Value.Text

/-!
# Time windows

The window `[start, stop)` of request timestamps that a facet is queried for,
from a named range, a duration or explicit bounds, and the condition that
selects it.
-/

namespace RequestBreakdown

structure TimeWindow where
  start : Timestamp
  stop : Timestamp
  deriving DecidableEq, Repr

/-- Named ranges and their length in milliseconds. -/
def timeRanges : List (String × Nat) := [
  ("15m", 15 * 60 * 1000),
  ("1h", 60 * 60 * 1000),
  ("12h", 12 * 60 * 60 * 1000),
  ("24h", 24 * 60 * 60 * 1000),
  ("7d", 7 * 24 * 60 * 60 * 1000)]

def defaultTimeRange : String := "1h"

namespace TimeWindow

def periodMillis (w : TimeWindow) : Except Fault Int :=
  (w.stop.since w.start).map Duration.millis

/-- The age of the oldest row that the window can hold, never below zero. -/
def ageMillis (w : TimeWindow) (now : Timestamp) : Except Fault Int :=
  (now.since w.start).map fun age => max 0 age.millis

def condition (w : TimeWindow) (column : String := "timestamp") : String :=
  column ++ " >= TIMESTAMP '" ++ w.start.literalText ++ "' AND " ++
    column ++ " < TIMESTAMP '" ++ w.stop.literalText ++ "'"

def describe (w : TimeWindow) : String := w.start.literalText ++ " - " ++ w.stop.literalText

/-- The length of a named range or of a duration above zero. -/
def rangeDuration (key : String) : Except Fault Duration :=
  match timeRanges.lookup key with
  | some millis => .ok (Duration.ofMillis millis)
  | none => do
    match ← Duration.read? key with
    | some duration =>
      if 0 < duration.micros then return duration else throw (.input (.unknownTimeRange key))
    | none => throw (.input (.unknownTimeRange key))

def ofRange (key : String) (now : Timestamp) : Except Fault TimeWindow := do
  let period ← rangeDuration key
  let stop := now.floorSecond
  return ⟨← stop.sub period, stop⟩

def ofRangeValue (range : Value) (now : Timestamp) : Except Fault TimeWindow := do
  let range ← range.asName
  if range.isPresent then ofRange (← range.asText) now
  else throw (.input (.unknownTimeRange range.display))

/-- A text that is present and not empty. -/
def given? (text : Option String) : Option String := text.filter (· != "")

/-- The window of explicit bounds where a start is given, else of the range.  A
missing end means now, a missing range one hour. -/
def resolve (range start stop : Option String) (now : Timestamp) : Except Fault TimeWindow := do
  let reference := now.floorSecond
  match given? start with
  | none => ofRange ((given? range).getD defaultTimeRange) reference
  | some startText =>
    let first := (← TimePoint.read startText reference).timestamp
    let last ← match given? stop with
      | some stopText => (TimePoint.read stopText reference).map (·.timestamp)
      | none => pure reference
    if ← last.le first then
      throw (.input (.emptyWindow startText ((given? stop).getD "now")))
    return ⟨first, last⟩

/-- The window of bounds as they are given, of which the later ones are looked at only when
the earlier ones make sense. -/
def resolveValues (range start stop : Value) (now : Timestamp) : Except Fault TimeWindow := do
  match start.present? with
  | none => ofRangeValue (range.orElse defaultTimeRange) now.floorSecond
  | some start =>
    let first ← start.asText
    discard (TimePoint.read first now.floorSecond)
    resolve none first (← stop.present?.mapM Value.asText) now

end TimeWindow

end RequestBreakdown
