import RequestBreakdown.Backend.Clock
import RequestBreakdown.Backend.Script
import RequestBreakdown.Row

/-!
# Databases

A database that answers statements from a script, and keeps a record of all that
was asked of it.  A statement that no rule answers has no rows.
-/

namespace RequestBreakdown

/-- What a database was asked for; of a statement, whether it was accepted. -/
inductive DatabaseEvent where
  | connected (database : String)
  | statement (sql : String) (accepted : Bool)
  | batch (sql : String) (records : List (List Value))
  | interrupted
  | closed
  deriving DecidableEq, Repr

/-- The answer to a statement; time passes first, in eighths of a second. -/
structure StatementAnswer where
  advance : Number := .int 0
  columns : List String := []
  records : List (List Value) := []
  /-- Whether the token of the statement is cancelled while it runs. -/
  cancelsToken : Bool := false
  fault : Option Fault := none
  deriving DecidableEq, Repr

structure Database where
  script : Script StatementAnswer := []
  /-- What is wrong with statements that are executed for many records. -/
  batchFaults : Script Fault := []
  clock : ScriptedClock := {}
  events : List DatabaseEvent := []
  /-- How many cursors were opened. -/
  cursors : Nat := 0
  deriving DecidableEq, Repr

namespace Database

def note (db : Database) (event : DatabaseEvent) : Database :=
  { db with events := db.events ++ [event] }

/-- The answer to a statement; its rule has been used and time has passed.  When the
clock cannot be moved that far, this is all that the statement comes to. -/
def answer (db : Database) (sql : String) : Database × StatementAnswer :=
  match Script.take? db.script sql with
  | some (answer, script) =>
    match db.clock.advance answer.advance with
    | .ok clock => ({ db with script, clock }, answer)
    | .error fault => ({ db with script }, { fault := some fault })
  | none => (db, {})

end Database

/-- A computation with a database: what a fault ends has happened nevertheless. -/
abbrev DatabaseM := ExceptT Fault (StateM Database)

namespace DatabaseM

def execute (sql : String) : DatabaseM StatementAnswer := do
  let (db, answer) := (← get).answer sql
  set (db.note (.statement sql answer.fault.isNone))
  match answer.fault with
  | some fault => throw fault
  | none => return answer

/-- A statement is executed for many records.  It needs no answer, so the script of the
answers has no say in it; but it can go wrong. -/
def executeBatch (sql : String) (records : List (List Value)) : DatabaseM Unit := do
  let db ← get
  match Script.take? db.batchFaults sql with
  | some (fault, batchFaults) =>
    set { db.note (.batch sql records) with batchFaults }
    throw fault
  | none => set (db.note (.batch sql records))

end DatabaseM

end RequestBreakdown
