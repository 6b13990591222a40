import RequestBreakdown.Cancellation.Token
import RequestBreakdown.Value.Use

/-!
# Activities

Everything that is going on belongs to a scope, and in each scope only the
latest activity counts.  Starting one cancels the token of the one before and
raises the generation of the scope.
-/

namespace RequestBreakdown

structure Activity where
  scope : Value
  generation : Nat
  token : TokenId
  deriving DecidableEq, Repr

/-- The latest activity of each scope, and all tokens. -/
structure ActivityRegistry (α : Type) where
  latest : List Activity := []
  network : TokenNetwork α := {}
  deriving DecidableEq, Repr

namespace ActivityRegistry

variable {α : Type}

def defaultScope : String := "dashboard"

/-- The scope that is meant; what is made of other values is the name of none. -/
def scopeOf (scope : Value) : Except Fault Value := (scope.orElse defaultScope).asName

def latestIn? (r : ActivityRegistry α) (scope : Value) : Option Activity :=
  r.latest.find? (·.scope.same scope)

def current? (r : ActivityRegistry α) (scope : Value) : Except Fault (Option Activity) :=
  (scopeOf scope).map r.latestIn?

/-- Whether no newer activity has started in the scope. -/
def isCurrent (r : ActivityRegistry α) (a : Activity) : Bool :=
  match r.latestIn? a.scope with
  | some latest => latest.generation == a.generation
  | none => false

def replaceLatest (latest : List Activity) (a : Activity) : List Activity :=
  (latest.filter fun b => !b.scope.same a.scope) ++ [a]

/-- A new activity in a scope that is the name of one; the one before is cancelled first. -/
def startIn [DecidableEq α] (r : ActivityRegistry α) (scope : Value) : ActivityRegistry α × Activity :=
  let previous := r.latestIn? scope
  let network := match previous with
    | some previous => r.network.cancel previous.token
    | none => r.network
  let generation := match previous with
    | some previous => previous.generation + 1
    | none => 1
  let (network, token) := network.create
  let activity := ⟨scope, generation, token⟩
  ({ latest := replaceLatest r.latest activity, network }, activity)

def start [DecidableEq α] (r : ActivityRegistry α) (scope : Value) :
    Except Fault (ActivityRegistry α × Activity) :=
  (scopeOf scope).map r.startIn

/-- The token of the current activity of a scope is cancelled; there must be one. -/
def cancelCurrent [DecidableEq α] (r : ActivityRegistry α) (scope : Value) :
    Except Fault (ActivityRegistry α) := do
  match ← r.current? scope with
  | some activity => return { r with network := r.network.cancel activity.token }
  | none => throw (.absent .activity)

end ActivityRegistry

end RequestBreakdown
