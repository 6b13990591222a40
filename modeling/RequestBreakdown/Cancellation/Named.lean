import RequestBreakdown.Cancellation.Activity

/-!
# Named tokens

Tokens, activities, callbacks and registrations under names, for callers that
keep none of them.  A callback notifies its own name; what it does besides is
settled when the name is first used, and the tokens that it speaks of are looked
up when it runs.
-/

namespace RequestBreakdown

/-- What a callback does besides notifying its name. -/
inductive NamedAction where
  | nothing
  | fail
  | cancel (token : String)
  /-- Another callback is registered with a token. -/
  | listen (token callback : String)
  deriving DecidableEq, Repr

structure NamedTokens where
  registry : ActivityRegistry String := {}
  /-- The tokens by name; a name that is used again stands for the later token. -/
  names : List (String × TokenId) := []
  activities : List (String × Activity) := []
  actions : List (String × NamedAction) := []
  registrations : List (String × TokenId × Callback String) := []
  deriving DecidableEq, Repr

namespace NamedTokens

def network (s : NamedTokens) : TokenNetwork String := s.registry.network

def withNetwork (s : NamedTokens) (network : TokenNetwork String) : NamedTokens :=
  { s with registry := { s.registry with network } }

def idOf (s : NamedTokens) (name : String) : Except Fault TokenId :=
  match s.names.lookup name with
  | some id => .ok id
  | none => .error (.unknownHandle name)

def nameOf? (s : NamedTokens) (id : TokenId) : Option String :=
  (s.names.find? (·.2 == id)).map (·.1)

/-- The name stands for the token, in its old place if it has one. -/
def bind (s : NamedTokens) (name : String) (id : TokenId) : NamedTokens :=
  if (s.names.lookup name).isSome then
    { s with names := s.names.map fun entry => if entry.1 = name then (name, id) else entry }
  else { s with names := s.names ++ [(name, id)] }

/-! ### Callbacks -/

/-- What a callback goes wrong with. -/
def callbackFault : Fault := .foreign "callback failed"

/-- An action as the names stand now; one that speaks of an unknown token goes wrong. -/
def reaction (s : NamedTokens) : NamedAction → Reaction String
  | .nothing => .nothing
  | .fail => .fail callbackFault
  | .cancel token =>
    match s.idOf token with
    | .ok id => .cancel id
    | .error fault => .fail fault
  | .listen token callback =>
    match s.idOf token with
    | .ok id => .listen id callback
    | .error fault => .fail fault

/-- The network in which the callbacks act on the tokens that have their names now. -/
def actedNetwork (s : NamedTokens) : TokenNetwork String :=
  { s.network with reactions := s.actions.map fun (name, action) => (name, s.reaction action) }

def acted (s : NamedTokens) : NamedTokens := s.withNetwork s.actedNetwork

/-- The callback of a name that has none yet. -/
def settleAction (s : NamedTokens) (name : String) (action : NamedAction) : NamedTokens :=
  if (s.actions.lookup name).isSome then s else { s with actions := s.actions ++ [(name, action)] }

def callbackNames (s : NamedTokens) : List String :=
  s.network.notified ++ (s.network.tokens.flatMap (·.callbacks)).filterMap fun
    | .notify name => some name
    | .cancel _ | .detach _ _ => none

/-- A callback that was first used by another one does nothing besides. -/
def settleActions (s : NamedTokens) : NamedTokens :=
  s.callbackNames.foldl (fun s name => s.settleAction name .nothing) s

def unnotified (s : NamedTokens) : NamedTokens :=
  s.settleActions.withNetwork { s.network with notified := [] }

/-! ### Operations -/

def create (s : NamedTokens) (name : String) : NamedTokens :=
  let (network, id) := s.network.create
  (s.withNetwork network).bind name id

def start (s : NamedTokens) (name : String) (scope : Value) : Except Fault NamedTokens := do
  let (registry, activity) ← s.acted.registry.start scope
  return { s with registry, activities := (name, activity) :: s.activities }.bind name activity.token

def current? (s : NamedTokens) (scope : Value) : Except Fault (Option Activity) :=
  s.registry.current? scope

def isCurrentIn (s : NamedTokens) (registry : ActivityRegistry String) (name : String) :
    Except Fault Bool :=
  match s.activities.lookup name with
  | some activity => .ok (registry.isCurrent activity)
  | none => .error (.unknownHandle name)

def cancel (s : NamedTokens) (name : String) : NamedTokens × Except Fault Unit :=
  match s.idOf name with
  | .ok id => (s.withNetwork (s.actedNetwork.cancel id), .ok ())
  | .error fault => (s, .error fault)

def check (s : NamedTokens) (name : String) : Except Fault Unit := do s.network.check (← s.idOf name)

/-- A callback is registered with a token; the registration has a name of its own.
One that runs at once and goes wrong is not registered. -/
def register (s : NamedTokens) (token name : String) (action : NamedAction) (registration : String) :
    NamedTokens × Except Fault Unit :=
  match s.idOf token with
  | .error fault => (s, .error fault)
  | .ok id =>
    let s := s.settleAction name action
    let callback : Callback String := .notify name
    let (network, fault) := s.actedNetwork.register id callback
    let s := s.withNetwork network
    match fault with
    | some fault => (s, .error fault)
    | none => ({ s with registrations := (registration, id, callback) :: s.registrations }, .ok ())

def unregister (s : NamedTokens) (name : String) : NamedTokens × Except Fault Unit :=
  match s.registrations.lookup name with
  | some (id, callback) => (s.withNetwork (s.network.unregister id callback), .ok ())
  | none => (s, .error (.unknownHandle name))

/-- The token that is cancelled with the first of the others, by its name: one of
theirs, or the given one if the token is new. -/
def merge (s : NamedTokens) (name : String) (others : List String) :
    NamedTokens × Except Fault (Option String) :=
  match others.mapM s.idOf with
  | .error fault => (s, .error fault)
  | .ok ids =>
    let (network, merged) := s.actedNetwork.merge ids
    let s := s.withNetwork network
    match merged with
    | none => (s, .ok none)
    | some id =>
      match s.nameOf? id with
      | some known => (s, .ok (some known))
      | none => (s.bind name id, .ok (some name))

def tokens (s : NamedTokens) : List (String × Token String) :=
  s.names.map fun (name, id) => (name, s.network.token id)

end NamedTokens

end RequestBreakdown
