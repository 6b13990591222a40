import RequestBreakdown.Number

/-!
# The limiter

A gate that lets a bounded number of holders in.  Those who cannot enter at once
wait in a queue and are let in strictly in the order of their requests.  A waiter
that gives up stays in the queue as a cancelled entry until it is passed over.
-/

namespace RequestBreakdown

abbrev Ticket := Nat

structure Waiter where
  ticket : Ticket
  cancelled : Bool := false
  deriving DecidableEq, Repr

structure Limiter where
  capacity : Nat
  /-- Slots in use. Releasing a slot that nobody holds takes it below zero. -/
  active : Int := 0
  queue : List Waiter := []
  deriving DecidableEq, Repr

namespace Limiter

/-- More holders than there ever are. -/
def unbounded : Nat := twoTo 63

/-- How many holders find less than so many others inside.  What is not a number is
above nothing, so nobody comes in. -/
def capacityOf : Number → Nat
  | .real x =>
    match x.truncate? with
    | some whole => (if x.isInteger then whole else whole + 1).toNat
    | none => if x.isNaN then 0 else unbounded
  | bound => (bound.integer?.getD 0).toNat

/-- A limiter for a bound, which must not be below one. -/
def ofBound (bound : Number) : Except Fault Limiter :=
  if bound.lt (.int 1) then .error (.input .concurrencyTooLow)
  else .ok { capacity := capacityOf bound }

/-- Those in the queue who have not given up. -/
def waiting (l : Limiter) : Nat := l.queue.countP (!·.cancelled)

/-- A slot at once when one is free and nobody waits, else a place in the queue.
Says whether the slot was given. -/
def request (l : Limiter) (ticket : Ticket) : Limiter × Bool :=
  if l.active < l.capacity ∧ l.waiting = 0 then ({ l with active := l.active + 1 }, true)
  else ({ l with queue := l.queue ++ [{ ticket }] }, false)

/-- What is left when the free slots have gone to the head of the queue. -/
structure Admission where
  active : Int
  queue : List Waiter
  granted : List Ticket
  deriving DecidableEq, Repr

/-- Slots go to the waiters in front while there are any; cancelled entries are
passed over. -/
def handOver (capacity : Nat) (active : Int) : List Waiter → Admission
  | [] => ⟨active, [], []⟩
  | w :: rest =>
    if active < capacity then
      if w.cancelled then handOver capacity active rest
      else
        let after := handOver capacity (active + 1) rest
        { after with granted := w.ticket :: after.granted }
    else ⟨active, w :: rest, []⟩

/-- A slot is given back, and goes to the next waiter. -/
def release (l : Limiter) : Limiter × List Ticket :=
  let after := handOver l.capacity (l.active - 1) l.queue
  ({ l with active := after.active, queue := after.queue }, after.granted)

def withdraw (l : Limiter) (ticket : Ticket) : Limiter :=
  { l with queue := l.queue.map fun w => if w.ticket = ticket then { w with cancelled := true } else w }

end Limiter

end RequestBreakdown
