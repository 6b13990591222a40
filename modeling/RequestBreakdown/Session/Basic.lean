import RequestBreakdown.Backend.Clock
import RequestBreakdown.Backend.Script
import RequestBreakdown.Session.Task
import RequestBreakdown.Settings

/-!
# Sessions

All loads of one user against one backend: they share the limiter, the
activities with their tokens, and one record of progress for each breakdown.
Tasks that can go on do so in the order in which they became able to.
-/

namespace RequestBreakdown

structure Session where
  planner : SamplingPlanner
  /-- The time that the age of the data is measured at. -/
  now : Timestamp
  breakdowns : List Breakdown
  /-- How many rows are asked for, as it is given. -/
  topN : Value
  modes : CountingModes := .record []
  script : Script BackendAnswer := []
  /-- Whether the backend gives up a query whose token is cancelled. -/
  honorsTokens : Bool := false
  clock : ScriptedClock := {}
  registry : ActivityRegistry QueryId := {}
  limiter : Limiter
  /-- Every record that was ever made. -/
  records : List Progress := []
  /-- The records in use, by breakdown, in the order in which they were made. -/
  shown : List (Value × RecordId) := []
  queries : List SentQuery := []
  tasks : List Task := []
  ready : List TaskEvent := []
  renderings : List Rendering := []
  deriving DecidableEq, Repr

namespace Session

def ofSettings (settings : Settings) (breakdowns : List Breakdown) (now : Timestamp) : Session :=
  { planner := { mode := settings.samplingMode, baseTable := settings.table }
    now, breakdowns
    topN := settings.topN
    limiter := { capacity := Limiter.capacityOf settings.maxConcurrent } }

/-! ### Records -/

def record (s : Session) (id : RecordId) : Progress := s.records.getD id { breakdownId := "" }

def setRecord (s : Session) (id : RecordId) (p : Progress) : Session :=
  { s with records := s.records.set id p }

/-- The record in use for a breakdown, made when there is none. -/
def recordFor (s : Session) (breakdownId : Value) : Except Fault (Session × RecordId) := do
  let key := (← breakdownId.asName).key
  match s.shown.lookup key with
  | some id => return (s, id)
  | none =>
    let id := s.records.length
    return ({ s with records := s.records ++ [{ breakdownId }], shown := s.shown ++ [(key, id)] }, id)

/-- The records are put aside; loads under way go on writing to them. -/
def resetProgress (s : Session) : Session := { s with shown := [] }

def progress (s : Session) : List Progress := s.shown.map fun entry => s.record entry.2

/-! ### Tasks -/

def addTask (s : Session) (t : Task) : Session × TaskId :=
  ({ s with tasks := s.tasks ++ [t], ready := s.ready ++ [.start s.tasks.length] }, s.tasks.length)

def loadTask? (s : Session) (id : TaskId) : Option LoadTask :=
  match s.tasks[id]? with
  | some (.load t) => some t
  | _ => none

def groupTask? (s : Session) (id : TaskId) : Option GroupTask :=
  match s.tasks[id]? with
  | some (.group t) => some t
  | _ => none

def setLoad (s : Session) (id : TaskId) (t : LoadTask) (state : LoadTaskState) : Session :=
  { s with tasks := s.tasks.set id (.load { t with state }) }

def setGroup (s : Session) (id : TaskId) (t : GroupTask) (state : GroupState) : Session :=
  { s with tasks := s.tasks.set id (.group { t with state }) }

/-- An event that happens after those that are ready already. -/
def later (s : Session) (event : TaskEvent) : Session := { s with ready := s.ready ++ [event] }

/-- An event that happens before all others: the task goes on at once. -/
def next (s : Session) (event : TaskEvent) : Session := { s with ready := event :: s.ready }

/-! ### Queries and tokens -/

def setQuery (s : Session) (id : QueryId) (state : QueryState) : Session :=
  { s with queries := s.queries.modify id fun q => { q with state } }

def pending (s : Session) : List QueryId :=
  (List.range s.queries.length).filter fun id => (s.queries[id]?).any (·.state == .waiting)

/-- A query that still waits ends because its token is cancelled. -/
def stopQuery (s : Session) (id : QueryId) : Session :=
  match s.queries[id]? with
  | some q => if q.state = .waiting then (s.setQuery id .stopped).later (.receive id) else s
  | none => s

/-- The activities have changed; the queries that were told of it stop. -/
def withRegistry (s : Session) (registry : ActivityRegistry QueryId) : Session :=
  let told := registry.network.notified
  let registry := { registry with network := { registry.network with notified := [] } }
  told.foldl stopQuery { s with registry }

def startActivity (s : Session) (scope : Value) : Except Fault (Session × Activity) := do
  let (registry, activity) ← s.registry.start scope
  return (s.withRegistry registry, activity)

def applyEffect (s : Session) : Effect → Except Fault Session
  | .startActivity scope => (s.startActivity scope).map (·.1)
  | .cancelActivity scope => (s.registry.cancelCurrent scope).map s.withRegistry

end Session

end RequestBreakdown
