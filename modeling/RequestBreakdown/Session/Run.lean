import RequestBreakdown.Session.Basic

/-!
# Running a session

One event after the other is taken from those that are ready.  A load asks for a
slot for each of its queries and gives it back before it goes on, so that it
queues anew behind those who wait already.
-/

namespace RequestBreakdown

namespace Session

/-- A load task is over; the task that waits for it is told. -/
def endLoad (s : Session) (id : TaskId) (t : LoadTask) (outcome : Except Fault RecordId) : Session :=
  let (state, fault) : LoadTaskState × Option Fault := match outcome with
    | .ok record => (.complete record, none)
    | .error fault => (.failed fault, some fault)
  let s := s.setLoad id t state
  match t.order.parent with
  | some parent => s.later (.childOver parent fault)
  | none => s

/-- A load asks for a slot; with one that is free it goes on at once. -/
def requestSlot (s : Session) (id : TaskId) (t : LoadTask) (run : RunningLoad) : Session :=
  let (limiter, granted) := s.limiter.request id
  let s := { s with limiter }
  if granted then (s.setLoad id t (.granted run)).next (.enter id)
  else s.setLoad id t (.queued run)

/-- A load gives its slot back; it goes to those who wait first. -/
def releaseSlot (s : Session) : Session :=
  let (limiter, granted) := s.limiter.release
  granted.foldl (fun s id =>
    match s.loadTask? id with
    | some t =>
      match t.state with
      | .queued run => (s.setLoad id t (.granted run)).later (.enter id)
      | _ => s
    | none => s) { s with limiter }

/-- What a load has done is recorded and shown; then it asks for its next query,
or it is over. -/
def follow (s : Session) (id : TaskId) (t : LoadTask) (activity : Activity) (record : RecordId)
    (step : LoadStep) : Session :=
  let s := s.setRecord record step.progress
  let s : Session := { s with renderings := s.renderings ++ step.renderings }
  match step.query with
  | some query => s.requestSlot id t { load := step.load, activity, record, query }
  | none => s.endLoad id t (.ok record)

def activityFor (s : Session) (order : LoadOrder) : Except Fault (Session × Activity) := do
  match order.activity with
  | some activity => return (s, activity)
  | none =>
    match ← s.registry.current? order.scope with
    | some activity => return (s, activity)
    | none => s.startActivity order.scope

def beginLoad (s : Session) (id : TaskId) (t : LoadTask) (activity : Activity) (record : RecordId) :
    Session :=
  let s := s.setRecord record (s.record record).begin
  match LoadRequest.prepareFor s.planner s.now s.topN t.order.breakdown t.order.filters t.order.window with
  | .error fault => s.endLoad id t (.error fault)
  | .ok request =>
    let fault := LoadRequest.limitFault? s.topN
    let current := s.registry.isCurrent activity
    s.follow id t activity record
      (Load.startUnless fault request t.order.filters s.modes (s.record record) current)

def startLoad (s : Session) (id : TaskId) (t : LoadTask) : Session :=
  match s.activityFor t.order with
  | .error fault => s.endLoad id t (.error fault)
  | .ok (s, activity) =>
    match s.recordFor t.order.breakdown.id with
    | .error fault => s.endLoad id t (.error fault)
    | .ok (s, record) => s.beginLoad id t activity record

/-- All breakdowns are loaded under a new activity, with new records. -/
def beginGroup (s : Session) (id : TaskId) (t : GroupTask) (activity : Activity) : Session :=
  let s := s.resetProgress
  if s.breakdowns.isEmpty then s.setGroup id t (.complete [])
  else
    let s := s.setGroup id t (.waiting s.breakdowns.length)
    s.breakdowns.foldl (fun s breakdown =>
      (s.addTask (.load { order := {
        breakdown, filters := t.filters, window := t.window, scope := t.scope
        activity := some activity, parent := some id } })).1) s

def startGroup (s : Session) (id : TaskId) (t : GroupTask) : Session :=
  match s.startActivity t.scope with
  | .ok (s, activity) => s.beginGroup id t activity
  | .error fault => s.setGroup id t (.failed fault)

/-- The slot is given back and the load goes on with the outcome of its query. -/
def leave (s : Session) (id : TaskId) (t : LoadTask) (run : RunningLoad) (outcome : QueryOutcome) :
    Session :=
  let s := s.releaseSlot
  let current := s.registry.isCurrent run.activity
  s.follow id t run.activity run.record
    (run.load.resume s.modes (s.record run.record) current outcome)

/-- A cancelled token as a fault, for a backend that looks at tokens. -/
def checkToken (s : Session) (run : RunningLoad) : Except Fault Unit :=
  if s.honorsTokens then s.registry.network.check run.activity.token else .ok ()

/-- A query is sent; the script may answer it at once. -/
def send (s : Session) (id : TaskId) (t : LoadTask) (run : RunningLoad) : Session :=
  let query := s.queries.length
  let s : Session := { s with
    queries := s.queries ++ [{ task := id, text := run.query, sentAt := s.clock }] }
  let s := s.setLoad id t (.querying run query)
  match Script.take? s.script run.query with
  | some (answer, script) =>
    (({ s with script } : Session).setQuery query (.answered answer)).next (.receive query)
  | none =>
    if s.honorsTokens then
      s.withRegistry { s.registry with
        network := (s.registry.network.register run.activity.token (.notify query)).1 }
    else s

def enter (s : Session) (id : TaskId) (t : LoadTask) (run : RunningLoad) : Session :=
  match s.checkToken run with
  | .error fault => s.leave id t run (.error fault)
  | .ok () => s.send id t run

/-- What a backend's answer comes to: time passes, its effect takes place, then its fault
counts, then a cancelled token, and only then its rows. -/
def take (s : Session) (run : RunningLoad) (sentAt : ScriptedClock) (answer : BackendAnswer) :
    Session × QueryOutcome :=
  match s.clock.advance answer.advance with
  | .error fault => (s, .error fault)
  | .ok clock =>
    let s : Session := { s with clock }
    match answer.effect.elim (.ok s) s.applyEffect with
    | .error fault => (s, .error fault)
    | .ok s =>
      match answer.fault, s.checkToken run with
      | some fault, _ => (s, .error fault)
      | none, .error fault => (s, .error fault)
      | none, .ok () => (s, .ok ⟨answer.rows, answer.totals, s.clock.millisSince sentAt⟩)

def outcomeOf (s : Session) (run : RunningLoad) (q : SentQuery) : Session × QueryOutcome :=
  match q.state with
  | .answered answer => s.take run q.sentAt answer
  | _ => (s, .error (.query .stopped))

def receive (s : Session) (query : QueryId) : Session :=
  match s.queries[query]? with
  | none => s
  | some q =>
    match s.loadTask? q.task with
    | none => s
    | some t =>
      match t.state with
      | .querying run _ =>
        let (s, outcome) := s.outcomeOf run q
        (s.setQuery query .ended).leave q.task t run outcome
      | _ => s

/-- A load that a task waits for is over: the first fault counts, else the last load. -/
def childOver (s : Session) (id : TaskId) (t : GroupTask) (fault : Option Fault) : Session :=
  match t.state with
  | .waiting n =>
    if fault.isSome || n ≤ 1 then (s.setGroup id t (.resolved fault)).later (.gathered id)
    else s.setGroup id t (.waiting (n - 1))
  | _ => s

def gathered (s : Session) (id : TaskId) (t : GroupTask) : Session :=
  match t.state with
  | .resolved (some fault) => s.setGroup id t (.failed fault)
  | .resolved none => s.setGroup id t (.complete (s.shown.map (·.2)))
  | _ => s

def handle (s : Session) : TaskEvent → Session
  | .start id =>
    match s.tasks[id]? with
    | some (.load t) => s.startLoad id t
    | some (.group t) => s.startGroup id t
    | none => s
  | .enter id =>
    match s.loadTask? id with
    | some t =>
      match t.state with
      | .granted run => s.enter id t run
      | _ => s
    | none => s
  | .receive query => s.receive query
  | .childOver parent fault =>
    match s.groupTask? parent with
    | some t => s.childOver parent t fault
    | none => s
  | .gathered id =>
    match s.groupTask? id with
    | some t => s.gathered id t
    | none => s

/-- The first of the events that are ready happens. -/
def step? (s : Session) : Option Session :=
  match s.ready with
  | [] => none
  | event :: rest => some (handle { s with ready := rest } event)

def settleWithin : Nat → Session → Session
  | 0, s => s
  | fuel + 1, s =>
    match s.step? with
    | some s => settleWithin fuel s
    | none => s

/-- A load has at most two queries for each rate, and four events for each query. -/
def eventsPerLoad : Nat := 8 * SampleRate.ladder.length + 4

/-- Events happen until every task waits. -/
def settle (s : Session) : Session :=
  settleWithin (s.ready.length + (s.tasks.length + 1) * (s.breakdowns.length + 1) * eventsPerLoad) s

/-! ### What a user does -/

def addLoad (s : Session) (order : LoadOrder) : Session × TaskId :=
  s.addTask (.load { order })

def addGroup (s : Session) (filters : List Filter) (window : TimeWindow) (scope : Value) :
    Session × TaskId :=
  s.addTask (.group { filters, window, scope })

def pendingQuery (s : Session) (query : Value) : Except Fault QueryId :=
  match s.pending.find? fun (id : QueryId) => (Value.int id).same query with
  | some id => .ok id
  | none => .error (.unknownHandle query.display)

def answer (s : Session) (query : Value) (answer : BackendAnswer) : Except Fault Session := do
  let id ← s.pendingQuery (← query.asName)
  return (s.setQuery id (.answered answer)).later (.receive id)

end Session

end RequestBreakdown
