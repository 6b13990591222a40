import RequestBreakdown.Number

/-!
# Sizes and durations in labels

A body size is written in decimal units, a response time in milliseconds or
from one second up in seconds.
-/

namespace RequestBreakdown

namespace Label

/-- A size in bytes, from 1000 in KB and from a million in MB. -/
def bytes (size : Number) : Except Fault String := do
  if size.isZero then return "0"
  if size.lt (.int 1000) then return size.text ++ " B"
  if size.lt (.int 1000000) then
    return (← size.div (.int 1000)).compactText ++ " KB"
  return (← size.div (.int 1000000)).compactText ++ " MB"

/-- A time in milliseconds, from 1000 in seconds: whole and half seconds as
they are, all else with one place. -/
def millis (time : Number) : Except Fault String := do
  if time.lt (.int 1000) then return time.text ++ "ms"
  let seconds ← time.div (.int 1000)
  match seconds.isInteger, seconds.truncate? with
  | true, some whole => return toString whole ++ "s"
  | _, _ =>
    if (seconds.mul (Binary64.ofInt 2)).isInteger then return seconds.compactText ++ "s"
    return seconds.placesText 1 ++ "s"

/-- The label of a boundary; boundaries are never too large for one. -/
def ofBoundary (write : Number → Except Fault String) (boundary : Nat) : String :=
  match write (.ofNat boundary) with
  | .ok label => label
  | .error _ => toString boundary

end Label

end RequestBreakdown
