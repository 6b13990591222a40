import RequestBreakdown.Fault

/-!
# Cancellation tokens

A token is cancelled once and for all, and then runs what was registered with it,
in the order of registration.  What is registered is data: it notifies someone,
cancels another token, or takes registrations back; and those who are notified may
react, by cancelling a token or having someone else notified.  So one token can set
off others.  The callbacks that are still to run form an agenda: it grows only when
a token is cancelled, of which there are fewer and fewer.
-/

namespace RequestBreakdown

abbrev TokenId := Nat

/-- What runs when a token is cancelled; `α` names who can be notified. -/
inductive Callback (α : Type) where
  | notify (whom : α)
  | cancel (token : TokenId)
  /-- The registrations of a merged token with its sources are taken back. -/
  | detach (merged : TokenId) (sources : List TokenId)
  deriving DecidableEq, Repr

/-- What someone who is notified does. -/
inductive Reaction (α : Type) where
  | nothing
  /-- It goes wrong. -/
  | fail (fault : Fault)
  | cancel (token : TokenId)
  /-- A token is to notify someone else; one that is cancelled already does so at once. -/
  | listen (token : TokenId) (whom : α)
  deriving DecidableEq, Repr

/-- A notification may turn into the cancellation of a token, and that is one step more. -/
def Callback.weight {α : Type} : Callback α → Nat
  | .notify _ => 2
  | .cancel _ | .detach _ _ => 1

def sumOf {β : Type} (f : β → Nat) : List β → Nat
  | [] => 0
  | x :: xs => f x + sumOf f xs

theorem sumOf_set {β : Type} (f : β → Nat) (l : List β) (i : Nat) (x : β) (h : i < l.length) :
    sumOf f (l.set i x) + f l[i] = sumOf f l + f x := by
  induction l generalizing i with
  | nil => simp at h
  | cons y ys ih =>
    cases i with
    | zero => simp only [List.set_cons_zero, sumOf, List.getElem_cons_zero]; omega
    | succ i =>
      simp only [List.length_cons, Nat.add_lt_add_iff_right] at h
      simp only [List.set_cons_succ, sumOf, List.getElem_cons_succ]
      have := ih i h
      omega

theorem sumOf_modify {β : Type} (f : β → Nat) (g : β → β) (h : ∀ x, f (g x) = f x) (l : List β)
    (i : Nat) : sumOf f (l.modify i g) = sumOf f l := by
  induction l generalizing i with
  | nil => simp
  | cons x xs ih =>
    cases i with
    | zero => simp [sumOf, h]
    | succ i => simp [sumOf, ih]

structure Token (α : Type) where
  cancelled : Bool := false
  callbacks : List (Callback α) := []
  deriving DecidableEq, Repr

def Token.life {α : Type} (t : Token α) : Nat := if t.cancelled then 0 else 1

/-- All tokens, by their number, who has been notified, in order, and what those do who
react to it. -/
structure TokenNetwork (α : Type) where
  tokens : List (Token α) := []
  notified : List α := []
  reactions : List (α × Reaction α) := []
  deriving DecidableEq, Repr

namespace TokenNetwork

variable {α : Type}

def token (n : TokenNetwork α) (id : TokenId) : Token α := n.tokens.getD id {}

def isCancelled (n : TokenNetwork α) (id : TokenId) : Bool := (n.token id).cancelled

def create (n : TokenNetwork α) : TokenNetwork α × TokenId :=
  ({ n with tokens := n.tokens ++ [{}] }, n.tokens.length)

/-- A token is cancelled and holds no registration any more. -/
def exhaust (n : TokenNetwork α) (id : TokenId) : TokenNetwork α :=
  { n with tokens := n.tokens.set id ⟨true, []⟩ }

def withCallbacks (n : TokenNetwork α) (id : TokenId)
    (change : List (Callback α) → List (Callback α)) : TokenNetwork α :=
  { n with tokens := n.tokens.modify id fun t => { t with callbacks := change t.callbacks } }

def append (n : TokenNetwork α) (id : TokenId) (callback : Callback α) : TokenNetwork α :=
  n.withCallbacks id (· ++ [callback])

def notifyAll (n : TokenNetwork α) (everyone : List α) : TokenNetwork α :=
  { n with notified := n.notified ++ everyone }

def live (n : TokenNetwork α) : Nat := sumOf Token.life n.tokens

theorem live_withCallbacks (n : TokenNetwork α) (id : TokenId)
    (change : List (Callback α) → List (Callback α)) :
    (n.withCallbacks id change).live = n.live :=
  sumOf_modify Token.life (fun t => { t with callbacks := change t.callbacks }) (fun _ => rfl)
    n.tokens id

theorem live_exhaust (n : TokenNetwork α) (id : TokenId) (t : Token α)
    (h : n.tokens[id]? = some t) (ht : t.cancelled = false) : (n.exhaust id).live < n.live := by
  obtain ⟨hlt, rfl⟩ := List.getElem?_eq_some_iff.mp h
  have := sumOf_set Token.life n.tokens id ⟨true, []⟩ hlt
  simp only [live, exhaust]
  simp only [Token.life, ht] at this ⊢
  simp at this
  omega

section
variable [DecidableEq α]

def unregister (n : TokenNetwork α) (id : TokenId) (callback : Callback α) : TokenNetwork α :=
  n.withCallbacks id (·.erase callback)

/-- The registrations of a merged token with its sources are taken back. -/
def detach (n : TokenNetwork α) (merged : TokenId) (sources : List TokenId) : TokenNetwork α :=
  sources.foldl (fun n source => n.unregister source (.cancel merged)) n

theorem live_detach (n : TokenNetwork α) (merged : TokenId) (sources : List TokenId) :
    (n.detach merged sources).live = n.live := by
  unfold detach
  induction sources generalizing n with
  | nil => rfl
  | cons source rest ih =>
    simp only [List.foldl_cons, ih]
    exact live_withCallbacks n source _

def reactionOf (n : TokenNetwork α) (whom : α) : Reaction α := (n.reactions.lookup whom).getD .nothing

/-- Someone who is notified has someone notified at once, who does the same, and so on. -/
def endless : Fault := .foreign "notifications without end"

/-- Everyone who is notified at once when someone is, and what the last of them does.
More of them than there are reactions means that one of them comes again. -/
def hear (n : TokenNetwork α) : Nat → α → List α × Reaction α
  | 0, _ => ([], .fail endless)
  | fuel + 1, whom =>
    match n.reactionOf whom with
    | .listen id other =>
      if n.isCancelled id then
        let (everyone, last) := n.hear fuel other
        (whom :: everyone, last)
      else ([whom], .listen id other)
    | reaction => ([whom], reaction)

def heard (n : TokenNetwork α) (whom : α) : List α × Reaction α :=
  n.hear (n.reactions.length + 1) whom

/-- The callbacks of the agenda run in order; those of a token that is cancelled
on the way run before the rest.  A callback that goes wrong stops nothing. -/
def run (n : TokenNetwork α) (agenda : List (Callback α)) : TokenNetwork α :=
  match agenda with
  | [] => n
  | .notify whom :: rest =>
    let m := n.notifyAll (n.heard whom).1
    match (n.heard whom).2 with
    | .cancel id => run m (.cancel id :: rest)
    | .listen id other => run (m.append id (.notify other)) rest
    | .nothing | .fail _ => run m rest
  | .detach merged sources :: rest => run (n.detach merged sources) rest
  | .cancel id :: rest =>
    match _found : n.tokens[id]? with
    | none => run n rest
    | some t =>
      if t.cancelled then run n rest else run (n.exhaust id) (t.callbacks ++ rest)
termination_by (n.live, sumOf Callback.weight agenda)
decreasing_by
  all_goals simp_all only [sumOf, Callback.weight, append, live_withCallbacks, live_detach]
  all_goals first
    | exact Prod.Lex.left _ _ (live_exhaust n id t (by assumption) (by simp_all))
    | exact Prod.Lex.right _ (by omega)

def cancel (n : TokenNetwork α) (id : TokenId) : TokenNetwork α := n.run [.cancel id]

/-- What goes wrong when a callback runs outside of a cancellation. -/
def faultOf? (n : TokenNetwork α) : Callback α → Option Fault
  | .notify whom =>
    match (n.heard whom).2 with
    | .fail fault => some fault
    | _ => none
  | .cancel _ | .detach _ _ => none

/-- The callback is registered, or runs at once when the token is cancelled
already; then it may go wrong. -/
def register (n : TokenNetwork α) (id : TokenId) (callback : Callback α) :
    TokenNetwork α × Option Fault :=
  if n.isCancelled id then (n.run [callback], n.faultOf? callback) else (n.append id callback, none)

/-- A token that is cancelled with the first of its sources; with a single source,
that one.  Its registrations are taken back when it is cancelled itself. -/
def merge (n : TokenNetwork α) (sources : List TokenId) : TokenNetwork α × Option TokenId :=
  match sources with
  | [] => (n, none)
  | [source] => (n, some source)
  | sources =>
    let (n, merged) := n.create
    if sources.any n.isCancelled then (n.cancel merged, some merged)
    else
      let n := sources.foldl (fun n source => (n.register source (.cancel merged)).1) n
      ((n.register merged (.detach merged sources)).1, some merged)

/-- A query may go on under a token that is not cancelled. -/
def check (n : TokenNetwork α) (id : TokenId) : Except Fault Unit :=
  if n.isCancelled id then .error (.query .stopped) else .ok ()

end

end TokenNetwork

end RequestBreakdown
