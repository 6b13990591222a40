import RequestBreakdown.Backend.Database
import RequestBreakdown.Sampling

/-!
# Sample tiers

The tables that hold a tenth and a hundredth of the requests.  A row is kept by
the hash of its number, so that the smaller sample is part of the larger one.
-/

namespace RequestBreakdown

structure SampleTiers where
  /-- The table with all requests, as it is given. -/
  baseTable : Value := "requests"
  /-- Whether the last attempt has made every table. -/
  isMaterialized : Bool := false
  deriving DecidableEq, Repr

namespace SampleTiers

/-- The tables, with one row in how many they keep.  Their names need one to begin with. -/
def tables (t : SampleTiers) : Except Fault (List (String × Nat)) :=
  (SamplingPlanner.nameOf t.baseTable).map SamplingPlanner.tierTables

def knownTables (t : SampleTiers) : DatabaseM (List (String × Nat)) := MonadExcept.ofExcept t.tables

def dropStatement (table : String) : String := "DROP TABLE IF EXISTS " ++ table

def createStatement (baseTable table : String) (keepOneIn : Nat) : String :=
  let margin := "\n                "
  margin ++ "CREATE TABLE " ++ table ++ " AS" ++ margin ++ "SELECT * FROM " ++ baseTable ++ margin ++
    "WHERE hash(rowid) % " ++ toString keepOneIn ++ " = 0" ++ margin

/-- One table is made anew; the seconds that it took. -/
def build (t : SampleTiers) (table : String) (keepOneIn : Nat) : DatabaseM Binary64 := do
  let start := (← get).clock
  discard (DatabaseM.execute (dropStatement table))
  discard (DatabaseM.execute (createStatement t.baseTable.display table keepOneIn))
  return (← get).clock.secondsSince start

/-- The seconds that a table took, or minus one when the database refused it. -/
def attempt (t : SampleTiers) (table : String) (keepOneIn : Nat) : DatabaseM Number := do
  try return .real (← t.build table keepOneIn)
  catch
    | .database _ _ => return .int (-1)
    | fault => throw fault

/-- All tables are made anew.  A fault that is not the database's ends the attempt
and leaves the tiers as they were marked. -/
def materializeAll (t : SampleTiers) : DatabaseM (SampleTiers × List (String × Number)) := do
  let timings ← (← t.knownTables).mapM fun (table, keepOneIn) =>
    return (table, ← t.attempt table keepOneIn)
  let complete := !timings.isEmpty && timings.all fun timing => (Number.int 0).le timing.2
  return ({ t with isMaterialized := complete }, timings)

def dropAll (t : SampleTiers) : DatabaseM SampleTiers := do
  (← t.knownTables).forM fun (table, _) => discard (DatabaseM.execute (dropStatement table))
  return { t with isMaterialized := false }

end SampleTiers

end RequestBreakdown
