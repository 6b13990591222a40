import Mathlib.Data.List.Nodup
import Mathlib.Data.List.Induction
import Mathlib.Tactic.IntervalCases
import RequestBreakdown.Proofs.Cancellation.Untouched

/-!
# Callbacks run once

Callers register with a token and take their registrations back, and the token is
cancelled, once or more often.  The first cancellation notifies those who are registered
then, in the order in which they came, whatever goes wrong with some of them; who comes
later is notified at once, and later cancellations notify nobody.  So nobody is notified
twice, and nobody after the registration was taken back.
-/

namespace RequestBreakdown

variable {α : Type}

/-- What is done with a token. -/
inductive TokenAction (α : Type) where
  /-- Someone is to be notified when the token is cancelled. -/
  | add (whom : α)
  /-- The registration is taken back. -/
  | remove (whom : α)
  | cancel
  deriving DecidableEq

namespace TokenAction

def added? : TokenAction α → Option α
  | .add whom => some whom
  | .remove _ | .cancel => none

/-- Who has been registered, in order. -/
def added (actions : List (TokenAction α)) : List α := actions.filterMap added?

/-- Nobody is registered twice, and a registration is taken back, however often, only after
it was made. -/
structure Proper (actions : List (TokenAction α)) : Prop where
  nodup : (added actions).Nodup
  added_of_removed : ∀ before whom rest,
    actions = before ++ .remove whom :: rest → whom ∈ added before

theorem added_append (before rest : List (TokenAction α)) :
    added (before ++ rest) = added before ++ added rest :=
  List.filterMap_append

variable {before rest : List (TokenAction α)} {whom : α}

theorem mem_added_append (hmem : whom ∈ added before) : whom ∈ added (before ++ rest) := by
  rw [added_append]
  exact List.mem_append_left _ hmem

theorem Proper.of_append (hproper : Proper (before ++ rest)) : Proper before := by
  constructor
  case nodup =>
      have hnodup := hproper.nodup
      rw [added_append] at hnodup
      exact hnodup.of_append_left
  case added_of_removed =>
      rintro front whom back rfl
      exact hproper.added_of_removed front whom (back ++ rest) (by simp)

theorem Proper.mem_added_of_removed (hproper : Proper before)
    (hremoved : .remove whom ∈ before) : whom ∈ added before := by
  obtain ⟨front, back, rfl⟩ := List.append_of_mem hremoved
  exact mem_added_append (hproper.added_of_removed front whom back rfl)

theorem Proper.notMem_of_add (hproper : Proper (before ++ [.add whom])) :
    whom ∉ added before ∧ .remove whom ∉ before := by
  have hnodup := hproper.nodup
  rw [added_append] at hnodup
  have hnew : whom ∉ added before := fun hmem =>
    List.disjoint_of_nodup_append hnodup hmem List.mem_cons_self
  exact ⟨hnew, fun hremoved => hnew (hproper.of_append.mem_added_of_removed hremoved)⟩

section

variable [DecidableEq α]

/-- Who is registered still, in order. -/
def stillRegistered (actions : List (TokenAction α)) : List α :=
  (added actions).filter fun whom => .remove whom ∉ actions

/-- Who is to be notified by an action, after others. -/
def due (before : List (TokenAction α)) : TokenAction α → List α
  | .add whom => if .cancel ∈ before then [whom] else []
  | .remove _ => []
  | .cancel => if .cancel ∈ before then [] else stillRegistered before

theorem stillRegistered_add (hproper : Proper (before ++ [.add whom])) :
    stillRegistered (before ++ [.add whom]) = stillRegistered before ++ [whom] := by
  have hnew := hproper.notMem_of_add.2
  simp [stillRegistered, added, added?, hnew]

theorem stillRegistered_remove (hproper : Proper before) :
    stillRegistered (before ++ [.remove whom]) = (stillRegistered before).erase whom := by
  have hnodup : (stillRegistered before).Nodup := hproper.nodup.filter _
  have hadded : added (before ++ [.remove whom]) = added before :=
    (added_append before _).trans (List.append_nil _)
  rw [hnodup.erase_eq_filter, stillRegistered, stillRegistered, hadded, List.filter_filter]
  refine List.filter_congr fun other _ => ?_
  simp [bne, BEq.beq, Bool.and_comm]

/-- Who has been removed is not due any more. -/
theorem Proper.notMem_due {action : TokenAction α} (hproper : Proper (before ++ [action]))
    (hremoved : .remove whom ∈ before) : whom ∉ due before action := by
  cases action with
  | add other =>
      have hne : whom ≠ other := by
        rintro rfl
        exact hproper.notMem_of_add.2 hremoved
      by_cases hcancel : .cancel ∈ before <;> simp [due, hcancel, hne]
  | remove other => simp [due]
  | cancel =>
      by_cases hcancel : .cancel ∈ before <;> simp [due, hcancel, stillRegistered, hremoved]

theorem nodup_due (hproper : Proper before) (action : TokenAction α) :
    (due before action).Nodup := by
  cases action with
  | add whom => by_cases hdone : .cancel ∈ before <;> simp [due, hdone]
  | remove whom => simp [due]
  | cancel =>
      by_cases hdone : .cancel ∈ before
      · simp [due, hdone]
      · rw [due, if_neg hdone]
        exact hproper.nodup.filter _

theorem mem_added_of_due {action : TokenAction α} (hdue : whom ∈ due before action) :
    whom ∈ added (before ++ [action]) := by
  rw [added_append, List.mem_append]
  cases action with
  | add other =>
      by_cases hdone : .cancel ∈ before
      · obtain rfl : whom = other := by simpa [due, hdone] using hdue
        exact .inr List.mem_cons_self
      · simp [due, hdone] at hdue
  | remove other => simp [due] at hdue
  | cancel =>
      by_cases hdone : .cancel ∈ before
      · simp [due, hdone] at hdue
      · rw [due, if_neg hdone] at hdue
        exact .inl (List.mem_of_mem_filter hdue)

/-- Those who have been told were registered, each is told once, and nobody before the
first cancellation. -/
structure Once (before : List (TokenAction α)) (told : List α) : Prop where
  nodup : told.Nodup
  added : ∀ whom ∈ told, whom ∈ added before
  silent : .cancel ∉ before → told = []

theorem Once.notMem_due {told : List α} (honce : Once before told) {action : TokenAction α}
    (hproper : Proper (before ++ [action])) : ∀ whom ∈ told, whom ∉ due before action := by
  intro whom htold
  by_cases hdone : .cancel ∈ before
  · cases action with
    | add other =>
        rintro hdue
        obtain rfl : whom = other := by simpa [due, hdone] using hdue
        exact hproper.notMem_of_add.1 (honce.added whom htold)
    | remove other => simp [due]
    | cancel => simp [due, hdone]
  · rw [honce.silent hdone] at htold
    exact absurd htold List.not_mem_nil

theorem Once.concat {told : List α} (honce : Once before told) {action : TokenAction α}
    (hproper : Proper (before ++ [action])) :
    Once (before ++ [action]) (told ++ due before action) := by
  constructor
  case nodup =>
      exact honce.nodup.append (nodup_due hproper.of_append action)
        fun whom htold hdue => honce.notMem_due hproper whom htold hdue
  case added =>
      intro whom hmem
      rcases List.mem_append.mp hmem with htold | hdue
      · exact mem_added_append (honce.added whom htold)
      · exact mem_added_of_due hdue
  case silent =>
      intro hlive
      rw [List.mem_append, List.mem_singleton, not_or] at hlive
      rw [honce.silent hlive.1, List.nil_append]
      cases action with
      | add other => simp [due, hlive.1]
      | remove other => rfl
      | cancel => exact absurd rfl hlive.2

end

end TokenAction

namespace TokenNetwork

open TokenAction

variable [DecidableEq α]

/-- What an action does to a token, and what the one who acts is told: a cancellation, as
opposed to a callback that runs at once, has no fault to tell of. -/
def act (n : TokenNetwork α) (id : TokenId) : TokenAction α → TokenNetwork α × Option Fault
  | .add whom => n.register id (.notify whom)
  | .remove whom => (n.unregister id (.notify whom), none)
  | .cancel => (n.cancel id, none)

def actAll (n : TokenNetwork α) (id : TokenId) (actions : List (TokenAction α)) :
    TokenNetwork α :=
  actions.foldl (fun n action => (n.act id action).1) n

/-- A network in which something has been done with a token. -/
structure Follows (id : TokenId) (callers : List α) (actions : List (TokenAction α))
    (m : TokenNetwork α) : Prop where
  untouched : m.Untouched id callers
  lt : id < m.tokens.length
  cancelled : m.isCancelled id = decide (.cancel ∈ actions)
  held : (m.token id).callbacks =
    if .cancel ∈ actions then [] else (stillRegistered actions).map .notify

/-- An action comes behind others, and of the callers just those are notified who are due. -/
structure Adds (id : TokenId) (callers : List α) (before : List (TokenAction α))
    (m : TokenNetwork α) (action : TokenAction α) : Prop where
  follows : Follows id callers (before ++ [action]) (m.act id action).1
  heard : (m.act id action).1.heardOf callers = m.heardOf callers ++ due before action
  faultless : action = .cancel ∨ .cancel ∉ before → (m.act id action).2 = none

variable {id : TokenId} {callers : List α} {before : List (TokenAction α)}
  {m : TokenNetwork α} {whom : α}

theorem heardOf_withCallbacks (n : TokenNetwork α) (callers : List α) (id : TokenId)
    (change : List (Callback α) → List (Callback α)) :
    (n.withCallbacks id change).heardOf callers = n.heardOf callers := rfl

namespace Follows

theorem add_of_live (hfollows : Follows id callers before m)
    (hproper : Proper (before ++ [.add whom])) (hwhom : whom ∈ callers)
    (hlive : .cancel ∉ before) : Adds id callers before m (.add whom) := by
  have hregister : m.act id (.add whom) = (m.append id (.notify whom), none) := by
    have halive : m.isCancelled id = false := by simp [hfollows.cancelled, hlive]
    simp [act, register, halive]
  constructor
  case follows =>
      rw [hregister]
      constructor
      case untouched =>
          dsimp only [append]
          refine hfollows.untouched.withOwnCallbacks fun callbacks callback hmem => ?_
          rcases List.mem_append.mp hmem with hbefore | hnew
          · exact .inl hbefore
          · exact .inr ⟨whom, hwhom, List.mem_singleton.mp hnew⟩
      case lt => simpa [append] using hfollows.lt
      case cancelled => simp [append, hfollows.cancelled, hlive]
      case held =>
          rw [append, callbacks_withCallbacks hfollows.lt, hfollows.held,
            stillRegistered_add hproper]
          simp [hlive]
  case heard => simp [hregister, append, heardOf_withCallbacks, due, hlive]
  case faultless => simp [hregister]

theorem add_of_cancelled (hfollows : Follows id callers before m) (hwhom : whom ∈ callers)
    (hdone : .cancel ∈ before) : Adds id callers before m (.add whom) := by
  have hregister : (m.act id (.add whom)).1 = m.run [.notify whom] := by
    have hcancelled : m.isCancelled id = true := by simp [hfollows.cancelled, hdone]
    simp [act, register, hcancelled]
  have hleaves : m.Leaves id callers (named callers [.notify whom]) (m.run [.notify whom]) :=
    hfollows.untouched.leaves_run (by simp [hwhom])
  constructor
  case follows =>
      rw [hregister]
      constructor
      case untouched => exact hleaves.untouched
      case lt => exact Nat.lt_of_lt_of_le hfollows.lt (advances_run m _).length_le
      case cancelled => simp [hleaves.isCancelled_eq, hfollows.cancelled, hdone]
      case held => simp [hleaves.token, hfollows.held, hdone]
  case heard =>
      rw [hregister, hleaves.heard]
      simp [named, Callback.whom?, hwhom, due, hdone]
  case faultless => simp [hdone]

theorem remove (hfollows : Follows id callers before m) (hproper : Proper before)
    (whom : α) : Adds id callers before m (.remove whom) := by
  constructor
  case follows =>
      dsimp only [act, unregister]
      constructor
      case untouched =>
          exact hfollows.untouched.withOwnCallbacks fun _ _ hmem =>
            .inl (List.mem_of_mem_erase hmem)
      case lt => simpa using hfollows.lt
      case cancelled => simp [hfollows.cancelled]
      case held =>
          rw [callbacks_withCallbacks hfollows.lt, hfollows.held]
          by_cases hdone : .cancel ∈ before
          · simp [hdone]
          · have hinjective : Function.Injective (Callback.notify : α → Callback α) :=
              fun _ _ heq => Callback.notify.inj heq
            simp [hdone, stillRegistered_remove hproper, List.map_erase hinjective]
  case heard => simp [act, unregister, heardOf_withCallbacks, due]
  case faultless => exact fun _ => rfl

theorem cancel_of_live (hfollows : Follows id callers before m)
    (hlive : .cancel ∉ before) (hcallers : ∀ whom ∈ added before, whom ∈ callers) :
    Adds id callers before m .cancel := by
  have hfound : m.tokens[id]? = some (m.token id) := by
    simp [token, List.getD_eq_getElem?_getD, hfollows.lt]
  have halive : (m.token id).cancelled = false := by
    have hsame := hfollows.cancelled
    rw [isCancelled] at hsame
    simpa [hlive] using hsame
  have hheld : (m.token id).callbacks = (stillRegistered before).map .notify := by
    simp [hfollows.held, hlive]
  have hregistered : ∀ whom ∈ stillRegistered before, whom ∈ callers :=
    fun whom hmem => hcallers whom (List.mem_of_mem_filter hmem)
  have hspares : ∀ callback ∈ (stillRegistered before).map Callback.notify,
      (∃ whom ∈ callers, callback = .notify whom) ∨ callback.Spares id callers := by
    intro callback hmem
    obtain ⟨whom, hwhom, rfl⟩ := List.mem_map.mp hmem
    exact .inl ⟨whom, hregistered whom hwhom, rfl⟩
  have hrun : (m.act id .cancel).1 =
      (m.exhaust id).run ((stillRegistered before).map .notify) := by
    rw [act, cancel, run_cancel_of_live hfound halive, hheld, List.append_nil]
  have hleaves := (hfollows.untouched.exhaust id).leaves_run hspares
  constructor
  case follows =>
      rw [hrun]
      constructor
      case untouched => exact hleaves.untouched
      case lt =>
          refine Nat.lt_of_lt_of_le ?_ (advances_run _ _).length_le
          exact Nat.lt_of_lt_of_le hfollows.lt (advances_exhaust m id).length_le
      case cancelled => simp [hleaves.isCancelled_eq, isCancelled_exhaust hfollows.lt]
      case held => simp [hleaves.token]
  case heard =>
      have hsame : (m.exhaust id).heardOf callers = m.heardOf callers := rfl
      rw [hrun, hleaves.heard, hsame, named_map_notify hregistered, due, if_neg hlive]
  case faultless => exact fun _ => rfl

theorem cancel_of_cancelled (hfollows : Follows id callers before m)
    (hdone : .cancel ∈ before) : Adds id callers before m .cancel := by
  have hrun : (m.act id .cancel).1 = m := by
    have hcancelled : ∀ t, m.tokens[id]? = some t → t.cancelled = true := by
      intro t hfound
      have hsame := hfollows.cancelled
      simpa [isCancelled, token, List.getD_eq_getElem?_getD, hfound, hdone] using hsame
    rw [act, cancel, run_cancel_of_done hcancelled]
    simp [run]
  constructor
  case follows =>
      rw [hrun]
      exact ⟨hfollows.untouched, hfollows.lt, by simp [hfollows.cancelled, hdone],
        by simp [hfollows.held, hdone]⟩
  case heard => simp [hrun, due, hdone]
  case faultless => exact fun _ => rfl

theorem adds (hfollows : Follows id callers before m) {action : TokenAction α}
    (hproper : Proper (before ++ [action]))
    (hcallers : ∀ whom ∈ added (before ++ [action]), whom ∈ callers) :
    Adds id callers before m action := by
  simp only [added_append, List.forall_mem_append] at hcallers
  by_cases hdone : .cancel ∈ before
  · cases action with
    | add whom => exact hfollows.add_of_cancelled (hcallers.2 whom List.mem_cons_self) hdone
    | remove whom => exact hfollows.remove hproper.of_append whom
    | cancel => exact hfollows.cancel_of_cancelled hdone
  · cases action with
    | add whom =>
        exact hfollows.add_of_live hproper (hcallers.2 whom List.mem_cons_self) hdone
    | remove whom => exact hfollows.remove hproper.of_append whom
    | cancel => exact hfollows.cancel_of_live hdone hcallers.1

end Follows

theorem actAll_concat (n : TokenNetwork α) (id : TokenId) (before : List (TokenAction α))
    (action : TokenAction α) :
    n.actAll id (before ++ [action]) = ((n.actAll id before).act id action).1 := by
  simp [actAll]

theorem Follows.actAll (hfollows : Follows id callers [] m) {actions : List (TokenAction α)}
    (hproper : Proper actions) (hcallers : ∀ whom ∈ added actions, whom ∈ callers) :
    Follows id callers actions (m.actAll id actions) := by
  induction actions using List.reverseRecOn with
  | nil => exact hfollows
  | append_singleton before action ih =>
      have hbefore := ih hproper.of_append fun whom hmem =>
        hcallers whom (mem_added_append hmem)
      rw [actAll_concat]
      exact (hbefore.adds hproper hcallers).follows

/-- A new token of which nobody knows but its callers. -/
theorem follows_new {n : TokenNetwork α}
    (huntouched : n.create.1.Untouched n.create.2 callers) :
    Follows n.create.2 callers [] n.create.1 := by
  have hsilent : n.create.1.token n.create.2 = {} := by
    rw [token_create]
    exact token_of_length_le (Nat.le_refl _)
  refine ⟨huntouched, by simp [create], ?_, ?_⟩
  · simp [isCancelled, hsilent]
  · simp [hsilent, stillRegistered, added]

theorem once_heardOf (hfollows : Follows id callers [] m) (hsilent : m.heardOf callers = [])
    {actions : List (TokenAction α)} (hproper : Proper actions)
    (hcallers : ∀ whom ∈ added actions, whom ∈ callers) :
    Once actions ((m.actAll id actions).heardOf callers) := by
  induction actions using List.reverseRecOn with
  | nil => exact ⟨by simp [actAll, hsilent], by simp [actAll, hsilent], fun _ => hsilent⟩
  | append_singleton before action ih =>
      have hfirst : ∀ whom ∈ added before, whom ∈ callers := fun whom hmem =>
        hcallers whom (mem_added_append hmem)
      have hadds := (hfollows.actAll hproper.of_append hfirst).adds hproper hcallers
      rw [actAll_concat, hadds.heard]
      exact (ih hproper.of_append hfirst).concat hproper

/-- After a registration has been taken back, its caller hears nothing any more. -/
theorem exists_heardOf_append (hfollows : Follows id callers [] m)
    (hremoved : .remove whom ∈ before) {rest : List (TokenAction α)}
    (hproper : Proper (before ++ rest))
    (hcallers : ∀ whom ∈ added (before ++ rest), whom ∈ callers) :
    ∃ more, (m.actAll id (before ++ rest)).heardOf callers =
      (m.actAll id before).heardOf callers ++ more ∧ whom ∉ more := by
  induction rest using List.reverseRecOn with
  | nil => exact ⟨[], by simp, List.not_mem_nil⟩
  | append_singleton rest action ih =>
      rw [← List.append_assoc] at hproper hcallers ⊢
      have hfirst : ∀ whom ∈ added (before ++ rest), whom ∈ callers := fun whom hmem =>
        hcallers whom (mem_added_append hmem)
      obtain ⟨more, hmore, hnot⟩ := ih hproper.of_append hfirst
      have hadds := (hfollows.actAll hproper.of_append hfirst).adds hproper hcallers
      refine ⟨more ++ due (before ++ rest) action, ?_, ?_⟩
      · rw [actAll_concat, hadds.heard, hmore, List.append_assoc]
      · have hdue := hproper.notMem_due (List.mem_append_left rest hremoved)
        simp [hnot, hdue]

/-- Whatever is done with a new token, each action notifies those who are due and nobody
else of its callers; the cancellations have no fault, whatever goes wrong with those who
are notified.  Nobody is notified twice, or after the registration was taken back. -/
theorem notified_once {n : TokenNetwork α} {actions : List (TokenAction α)}
    (hproper : Proper actions)
    (huntouched : n.create.1.Untouched n.create.2 (added actions))
    (hnew : ∀ whom ∈ added actions, whom ∉ n.notified) :
    let after := n.create.1.actAll n.create.2
    let ran := fun before => (after before).heardOf (added actions)
    ran [] = [] ∧
    (∀ before action rest, actions = before ++ action :: rest →
      ran (before ++ [action]) = ran before ++ due before action ∧
      (action = .cancel ∨ .cancel ∉ before →
        ((after before).act n.create.2 action).2 = none)) ∧
    (ran actions).Nodup ∧
    ∀ before rest whom, actions = before ++ rest → .remove whom ∈ before →
      ∃ more, ran actions = ran before ++ more ∧ whom ∉ more := by
  intro after ran
  have hfollows := follows_new huntouched
  have hsilent : n.create.1.heardOf (added actions) = [] := by
    rw [heardOf, List.filter_eq_nil_iff]
    intro whom hmem
    simpa using fun hadded => hnew whom hadded hmem
  refine ⟨hsilent, ?_, (once_heardOf hfollows hsilent hproper fun _ => id).nodup, ?_⟩
  · rintro before action rest rfl
    have hsplit : before ++ action :: rest = before ++ [action] ++ rest := by simp
    have hfront : Proper (before ++ [action]) := (hsplit ▸ hproper).of_append
    have hcallers : ∀ whom ∈ added (before ++ [action]),
        whom ∈ added (before ++ action :: rest) := by
      intro whom hmem
      rw [hsplit]
      exact mem_added_append hmem
    have hbefore := hfollows.actAll hfront.of_append fun whom hmem =>
      hcallers whom (mem_added_append hmem)
    have hadds := hbefore.adds hfront hcallers
    refine ⟨?_, hadds.faultless⟩
    exact (congrArg (heardOf · _) (actAll_concat ..)).trans hadds.heard
  · rintro before rest whom rfl hremoved
    exact exists_heardOf_append hfollows hremoved hproper fun _ => id

/-- Three register, the first goes wrong, the second has its registration taken back, and
the third cancels another token; a fourth comes when all is over. -/
theorem notified_once_four :
    let n : TokenNetwork Nat := {
      tokens := [⟨false, [.notify 9]⟩]
      reactions := [(1, .fail endless), (3, .cancel 0)] }
    let before : List (TokenAction Nat) := [.add 1, .add 2, .remove 2, .remove 2, .add 3]
    let actions := before ++ .cancel :: [.add 4, .cancel]
    let ran := fun done => (n.create.1.actAll n.create.2 done).heardOf (added actions)
    (Proper actions ∧ n.create.1.Untouched n.create.2 (added actions) ∧
      ∀ whom ∈ added actions, whom ∉ n.notified) ∧
    ran (before ++ [.cancel]) = ran before ++ [1, 3] ∧
    (ran actions).Nodup ∧
    ∃ more, ran actions = ran before ++ more ∧ 2 ∉ more := by
  intro n before actions ran
  have hproper : Proper actions := by
    constructor
    case nodup => decide
    case added_of_removed =>
        intro front whom back heq
        have hfront : front = actions.take front.length := by simp [heq]
        have hfound : actions[front.length]? = some (.remove whom) := by simp [heq]
        have hlt : front.length < 8 := (List.getElem?_eq_some_iff.mp hfound).1
        rw [hfront]
        clear hfront heq
        generalize front.length = place at hfound hlt ⊢
        interval_cases place <;> simp [actions, before] at hfound <;> subst hfound <;> decide
  have huntouched : n.create.1.Untouched n.create.2 (added actions) := by
    constructor
    case own => exact fun _ hmem => absurd hmem List.not_mem_nil
    case others =>
        intro token _ callback hmem
        rw [token_create] at hmem
        cases token with
        | zero =>
            obtain rfl := List.mem_singleton.mp hmem
            have hother : 9 ∉ added actions := by decide
            exact hother
        | succ token => exact absurd hmem (by simp [n, TokenNetwork.token])
    case reactions =>
        intro whom
        rcases whom with _ | _ | _ | _ | whom
        · trivial
        · trivial
        · trivial
        · exact Nat.zero_ne_one
        · trivial
  obtain ⟨-, hrun, hnodup, hremoved⟩ := notified_once hproper huntouched (by decide)
  exact ⟨⟨hproper, huntouched, by decide⟩, (hrun before .cancel _ rfl).1, hnodup,
    hremoved before _ 2 rfl (by decide)⟩

end TokenNetwork

end RequestBreakdown
