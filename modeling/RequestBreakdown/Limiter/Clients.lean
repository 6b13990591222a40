import RequestBreakdown.Limiter.Basic

/-!
# Clients of a limiter

Tasks that share one limiter.  A task is created, asks for a slot, may have to
queue, is granted a slot and resumes some time later, works inside it and gives
it back; at any moment it can be cancelled.  A task that is cancelled between
the grant and its resumption gives the slot back when it resumes.  Tasks that
can go on resume in the order in which they became able to.

Tasks are told apart by their tickets.  What is shown of them is kept by name, so of
several tasks of one name the last to get anywhere is seen.
-/

namespace RequestBreakdown

/-- What a task wants: to hold a slot, or to do a piece of work inside one. -/
inductive ClientKind where
  | holder
  | worker
  deriving DecidableEq, Repr

inductive ClientPhase where
  | created
  | queued
  /-- It gave up while it was queued. -/
  | withdrawn
  /-- It has a slot and has not resumed. -/
  | granted
  | working
  | ended
  deriving DecidableEq, Repr

/-- How the work of a task stands. -/
inductive Work (α : Type) where
  | unfinished
  | finished (value : α)
  | failed (text : String)
  | abandoned
  deriving DecidableEq, Repr

/-- What is shown of a task. -/
inductive ClientStatus (α : Type) where
  | waiting
  | held
  | released
  | cancelled
  | done (value : α)
  | failed (text : String)
  deriving DecidableEq, Repr

structure Client (α : Type) where
  name : String
  kind : ClientKind
  phase : ClientPhase := .created
  /-- It was cancelled too late to be stopped where it stood. -/
  mustCancel : Bool := false
  work : Work α := .unfinished
  deriving DecidableEq, Repr

structure Clients (α : Type) where
  limiter : Limiter
  clients : List (Client α) := []
  /-- Tasks that can go on, in the order in which they became able to. -/
  ready : List Ticket := []
  /-- Names of the tasks let in, in order. -/
  admitted : List String := []
  statuses : List (String × ClientStatus α) := []
  deriving DecidableEq, Repr

namespace Clients

variable {α : Type}

def client? (s : Clients α) (ticket : Ticket) : Option (Client α) := s.clients[ticket]?

def latestTicket (s : Clients α) (name : String) (test : Client α → Bool) : Except Fault Ticket :=
  let found := (List.range s.clients.length).reverse.find? fun ticket =>
    (s.client? ticket).any fun c => c.name == name && test c
  found.elim (.error (.unknownHandle name)) .ok

def ticketOf (s : Clients α) (name : String) : Except Fault Ticket := s.latestTicket name fun _ => true

/-- The latest task of a name that has work to do. -/
def workerOf (s : Clients α) (name : String) : Except Fault Ticket := s.latestTicket name (·.kind == .worker)

/-- A status takes the place of an earlier one of the name, else it comes last. -/
def mark (s : Clients α) (name : String) (status : ClientStatus α) : Clients α :=
  { s with statuses :=
    if (s.statuses.lookup name).isSome then
      s.statuses.map fun entry => if entry.1 = name then (name, status) else entry
    else s.statuses ++ [(name, status)] }

def update (s : Clients α) (ticket : Ticket) (f : Client α → Client α) : Clients α :=
  { s with clients := s.clients.modify ticket f }

def wake (s : Clients α) (ticket : Ticket) : Clients α := { s with ready := s.ready ++ [ticket] }

/-- A slot is given back; those who get it can go on. -/
def release (s : Clients α) : Clients α :=
  let (limiter, granted) := s.limiter.release
  granted.foldl (fun s ticket => (s.update ticket fun c => { c with phase := .granted }).wake ticket)
    { s with limiter }

def finish (s : Clients α) (ticket : Ticket) : Clients α := s.update ticket fun c => { c with phase := .ended }

def finishOutside (s : Clients α) (ticket : Ticket) (c : Client α) : Clients α :=
  (s.finish ticket).mark c.name .cancelled

def finishInside (s : Clients α) (ticket : Ticket) (c : Client α) (status : ClientStatus α) : Clients α :=
  (s.release.finish ticket).mark c.name status

/-- The work of a task in its slot goes on as far as it can. -/
def continueWork (s : Clients α) (ticket : Ticket) (c : Client α) : Clients α :=
  if c.mustCancel then s.finishInside ticket c .cancelled
  else
    match c.work with
    | .unfinished => s.update ticket fun c => { c with phase := .working }
    | .finished value => s.finishInside ticket c (.done value)
    | .failed text => s.finishInside ticket c (.failed text)
    | .abandoned => s.finishInside ticket c .cancelled

def enter (s : Clients α) (ticket : Ticket) (c : Client α) : Clients α :=
  let s := ({ s with admitted := s.admitted ++ [c.name] } : Clients α).mark c.name .held
  match c.kind with
  | .holder => s.finish ticket
  | .worker => s.continueWork ticket c

/-- A task that can go on does so until it has to wait again. -/
def resume (s : Clients α) (ticket : Ticket) : Clients α :=
  match s.client? ticket with
  | none => s
  | some c =>
    match c.phase with
    | .created =>
      if c.mustCancel then s.finish ticket
      else
        let (limiter, admitted) := s.limiter.request ticket
        let s := { s with limiter }
        if admitted then s.enter ticket c else s.update ticket fun c => { c with phase := .queued }
    | .withdrawn => s.finishOutside ticket c
    | .granted => if c.mustCancel then s.finishInside ticket c .cancelled else s.enter ticket c
    | .working => s.continueWork ticket c
    | .queued | .ended => s

def create (s : Clients α) (kind : ClientKind) (name : String) : Clients α :=
  let ready := s.ready ++ [s.clients.length]
  ({ s with clients := s.clients ++ [{ name, kind }], ready } : Clients α).mark name .waiting

def cancel (s : Clients α) (ticket : Ticket) : Clients α :=
  match s.client? ticket with
  | none => s
  | some c =>
    match c.phase with
    | .queued =>
      let s : Clients α := { s with limiter := s.limiter.withdraw ticket }
      (s.update ticket fun c => { c with phase := .withdrawn }).wake ticket
    | .working =>
      match c.work with
      | .unfinished => (s.update ticket fun c => { c with work := .abandoned }).wake ticket
      | _ => s.update ticket fun c => { c with mustCancel := true }
    | .ended => s
    | _ => s.update ticket fun c => { c with mustCancel := true }

/-- The work of a task ends, unless it has ended already. -/
def endWork (s : Clients α) (ticket : Ticket) (work : Work α) : Clients α :=
  match s.client? ticket with
  | none => s
  | some c =>
    match c.work with
    | .unfinished =>
      let s := s.update ticket fun c => { c with work }
      match c.phase with
      | .working => s.wake ticket
      | _ => s
    | _ => s

/-- A slot is given back from outside, in some name or in nobody's. -/
def releaseFor (s : Clients α) (name : Option String) : Clients α :=
  match name with
  | some name => s.release.mark name .released
  | none => s.release

/-- Tasks resume in order until none can go on. -/
def settleWithin : Nat → Clients α → Clients α
  | 0, s => s
  | fuel + 1, s =>
    match s.ready with
    | [] => s
    | ticket :: rest => settleWithin fuel (resume { s with ready := rest } ticket)

/-- A task resumes at most three times after it was made able to. -/
def settle (s : Clients α) : Clients α :=
  settleWithin (s.ready.length + 3 * s.clients.length) s

end Clients

end RequestBreakdown
