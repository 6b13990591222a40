import RequestBreakdown.Backend.Clock
import RequestBreakdown.Cancellation.Activity
import RequestBreakdown.Limiter.Basic
import RequestBreakdown.Load.Run

/-!
# Tasks of a session

A session runs loads side by side.  A task loads one breakdown, or it loads all
of them through tasks of their own and waits for these.  A task that loads holds
a slot of the limiter exactly while it has been granted one or waits for an
answer.
-/

namespace RequestBreakdown

abbrev QueryId := Nat

abbrev RecordId := Nat

/-- Tasks ask the limiter for slots in their own name. -/
abbrev TaskId := Ticket

/-- What a breakdown is loaded for. -/
structure LoadOrder where
  breakdown : Breakdown
  filters : List Filter
  window : TimeWindow
  scope : Value
  /-- The activity that the load belongs to; else the current one of the scope. -/
  activity : Option Activity := none
  /-- The task that waits for the load. -/
  parent : Option TaskId := none
  deriving DecidableEq, Repr

/-- A load under way, with the query that it sends next or has sent. -/
structure RunningLoad where
  load : Load
  activity : Activity
  record : RecordId
  query : String
  deriving DecidableEq, Repr

inductive LoadTaskState where
  | created
  /-- It waits for a slot. -/
  | queued (run : RunningLoad)
  /-- It has a slot and has not sent its query. -/
  | granted (run : RunningLoad)
  /-- It waits for the answer of a query. -/
  | querying (run : RunningLoad) (query : QueryId)
  | complete (record : RecordId)
  | failed (fault : Fault)
  deriving DecidableEq, Repr

structure LoadTask where
  order : LoadOrder
  state : LoadTaskState := .created
  deriving DecidableEq, Repr

inductive GroupState where
  | created
  /-- It waits for so many loads. -/
  | waiting (unfinished : Nat)
  /-- All loads are over, or one has gone wrong, and the task has not gone on. -/
  | resolved (fault : Option Fault)
  | failed (fault : Fault)
  | complete (records : List RecordId)
  deriving DecidableEq, Repr

/-- The load of all breakdowns. -/
structure GroupTask where
  filters : List Filter
  window : TimeWindow
  scope : Value
  state : GroupState := .created
  deriving DecidableEq, Repr

inductive Task where
  | load (t : LoadTask)
  | group (t : GroupTask)
  deriving DecidableEq, Repr

/-- What a task is ready to do. -/
inductive TaskEvent where
  | start (task : TaskId)
  /-- A task goes on with the slot that it has been granted. -/
  | enter (task : TaskId)
  /-- The sender of a query goes on with its answer. -/
  | receive (query : QueryId)
  /-- A load that a task waits for is over. -/
  | childOver (parent : TaskId) (fault : Option Fault)
  /-- A task goes on that has waited for loads. -/
  | gathered (task : TaskId)
  deriving DecidableEq, Repr

/-- What else happens when a query is answered. -/
inductive Effect where
  | startActivity (scope : Value)
  | cancelActivity (scope : Value)
  deriving DecidableEq, Repr

/-- What a backend answers; time passes first, in eighths of a second. -/
structure BackendAnswer where
  advance : Number := .int 0
  effect : Option Effect := none
  fault : Option Fault := none
  rows : Value := .list []
  totals : Value := .null
  deriving DecidableEq, Repr

inductive QueryState where
  | waiting
  | answered (answer : BackendAnswer)
  /-- Its token has been cancelled before it was answered. -/
  | stopped
  | ended
  deriving DecidableEq, Repr

/-- A query that was sent to the backend. -/
structure SentQuery where
  task : TaskId
  text : String
  /-- The clock when it was sent. -/
  sentAt : ScriptedClock
  state : QueryState := .waiting
  deriving DecidableEq, Repr

end RequestBreakdown
