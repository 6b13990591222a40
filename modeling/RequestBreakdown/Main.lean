import RequestBreakdown.CommandLine.Run
import Std.Time.DateTime.Timestamp

/-!
# The program

The command line with the variables of the process and the clock of the machine.
The database behind it is empty and stays so: it takes every statement, and finds
nothing.
-/

namespace RequestBreakdown

namespace CommandLine

def emptyDatabase : Database :=
  { script := [{ parts := ["SELECT COUNT(*)"], answer := { columns := ["count"], records := [[.int 0]] } }] }

/-- The first moment of the year 1970, in ticks. -/
def epochTicks : Nat := daysBeforeYear 1970 * microsPerDay

def readVariables : IO Environment := do
  let values ← settingVariables.mapM fun name => return (name, ← IO.getEnv name)
  return values.filterMap fun (name, value) => value.map fun text => (name, text)

def readClock : IO Timestamp := do
  let now ← Std.Time.Timestamp.now
  return { ticks := epochTicks + now.toSecondsSinceUnixEpoch.val.toNat * microsPerSecond }

/-- What a terminal without styles shows. -/
def terminalText : Printed → String
  | .text s => s
  | .line t => t.text ++ "\n"
  | .table t => "\n".intercalate t.lines ++ "\n"

def usageText (fault : UsageFault) : String :=
  helpText ++ programName ++ ": error: " ++ fault.message

/-- What was printed and what went wrong is written out; the exit code is that of the
command. -/
def finish (outcome : CommandOutcome) : IO UInt32 := do
  for printed in outcome.printed do IO.print (terminalText printed)
  for line in outcome.errors do IO.eprintln line
  match outcome.ending with
  | .exit code => return code.toUInt32
  | .usage fault => IO.eprintln (usageText fault); return 2
  | .fault fault => IO.eprintln fault.message; return 1

end CommandLine

end RequestBreakdown

def main (args : List String) : IO UInt32 := do
  let environment ← RequestBreakdown.CommandLine.readVariables
  let today ← RequestBreakdown.CommandLine.readClock
  RequestBreakdown.CommandLine.finish
    (RequestBreakdown.CommandLine.run
      { environment, db := RequestBreakdown.CommandLine.emptyDatabase, today } args)
