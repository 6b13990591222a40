import RequestBreakdown.Number

/-!
# Scripted clocks

A clock that stands still until an answer moves it.  It shows seconds in binary64,
and spans of time are differences of what it shows.
-/

namespace RequestBreakdown

/-- The seconds since the clock was set up. -/
structure ScriptedClock where
  seconds : Binary64 := .zero
  deriving DecidableEq, Repr

namespace ScriptedClock

/-- The clock moves on by eighths of a second. -/
def advance (c : ScriptedClock) (eighths : Number) : Except Fault ScriptedClock :=
  (eighths.div (.int 8)).map fun seconds => ⟨c.seconds.add seconds⟩

def secondsSince (c start : ScriptedClock) : Binary64 := c.seconds.sub start.seconds

def millisSince (c start : ScriptedClock) : Binary64 := (c.secondsSince start).mul (.ofInt 1000)

end ScriptedClock

end RequestBreakdown
