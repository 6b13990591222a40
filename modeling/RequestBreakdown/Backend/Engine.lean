import RequestBreakdown.Backend.Source
import RequestBreakdown.Cancellation.Token
import RequestBreakdown.Result.Totals

/-!
# The query engine

A query runs on a cursor of its own.  Cancelling its token interrupts the cursor;
whatever happens, the cursor is closed and the token keeps no callback for it.  A
query whose token is cancelled never has rows.
-/

namespace RequestBreakdown

abbrev CursorId := Nat

/-- The log source and the tokens that queries run under. -/
structure Engine where
  source : LogSource
  network : TokenNetwork CursorId := {}
  deriving DecidableEq, Repr

/-- The message of a fault from its parts as they are given: a code that does not count as
absent stands in brackets before the text, else the text has to be one. -/
def QueryFault.messageOf (text code : Value) : Except Fault String :=
  match code.present?, text with
  | some code, text => .ok ("[" ++ code.display ++ "] " ++ text.display)
  | none, .text text => .ok text
  | none, _ => .error (.operand .unsuitable)

namespace Engine

def note (e : Engine) (event : DatabaseEvent) : Engine :=
  { e with source := { e.source with db := e.source.db.note event } }

def interruption (cursor : CursorId) : Callback CursorId := .notify cursor

/-- A cursor is opened; cancelling the token will interrupt it. -/
def openCursor (e : Engine) (token : Option TokenId) : Engine × CursorId :=
  let db := e.source.db
  let cursor := db.cursors
  let e := { e with source := { e.source with db := { db with cursors := cursor + 1 } } }
  match token with
  | some id => ({ e with network := (e.network.register id (interruption cursor)).1 }, cursor)
  | none => (e, cursor)

/-- The token is taken off the cursor, and the cursor is closed. -/
def closeCursor (e : Engine) (token : Option TokenId) (cursor : CursorId) : Engine :=
  let e := match token with
    | some id => { e with network := e.network.unregister id (interruption cursor) }
    | none => e
  e.note .closed

/-- The token is cancelled while a query runs; cursors that hear of it are interrupted. -/
def cancelToken (e : Engine) (token : Option TokenId) : Engine :=
  match token with
  | some id =>
    let network := e.network.cancel id
    let e := network.notified.foldl (fun e _ => e.note .interrupted) e
    { e with network := { network with notified := [] } }
  | none => e

def runQuery (e : Engine) (token : Option TokenId) (query : String) : Engine × StatementAnswer :=
  let (db, answer) := e.source.db.answer query
  let e := { e with source := { e.source with
    db := db.note (.statement query answer.fault.isNone) } }
  (if answer.cancelsToken then e.cancelToken token else e, answer)

def isCancelled (e : Engine) (token : Option TokenId) : Bool :=
  match token with
  | some id => e.network.isCancelled id
  | none => false

/-- How a fault of the database is reported; all other faults are left as they are. -/
def report (fault : Fault) (cancelled : Bool) (query : String) : Fault :=
  match fault with
  | .database kind text =>
    if kind = Fault.interruptKind || cancelled then .query .stopped
    else .query (.rejected text (some kind) (some query))
  | fault => fault

/-- The rows of an answer, or why there are none. -/
def outcome (answer : StatementAnswer) (cancelled : Bool) (query : String) (elapsed : Binary64) :
    Except Fault QueryResult :=
  match answer.fault with
  | some fault => .error (report fault cancelled query)
  | none =>
    if cancelled then .error (.query .stopped)
    else .ok { QueryResult.ofRecords answer.columns answer.records with networkTime := some elapsed }

def execute (e : Engine) (query : String) (token : Option TokenId) :
    Engine × Except Fault QueryResult :=
  if e.isCancelled token then (e, .error (.query .stopped))
  else
    match LogSource.connect e.source with
    | (.error fault, source) => ({ e with source }, .error fault)
    | (.ok (), source) =>
      let (e, cursor) := ({ e with source } : Engine).openCursor token
      let start := e.source.db.clock
      let (e, answer) := e.runQuery token query
      let e := e.closeCursor token cursor
      let elapsed := e.source.db.clock.millisSince start
      (e, outcome answer (e.isCancelled token) query elapsed)

end Engine

end RequestBreakdown
