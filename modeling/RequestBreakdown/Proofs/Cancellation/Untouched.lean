import RequestBreakdown.Proofs.Cancellation.Newcomers

/-!
# A token that is left alone

Of some callers it is known that they register with one token only, and nothing that runs
in the network cancels this token, registers with it or takes registrations from it.  Then
whatever runs leaves the token as it is, and of these callers just those are notified whom
the agenda names, in its order; however much else is set off by that.
-/

namespace RequestBreakdown

variable {α : Type}

/-- Whether a callback leaves a token and its callers alone. -/
def Callback.Spares (id : TokenId) (callers : List α) : Callback α → Prop
  | .notify whom => whom ∉ callers
  | .cancel token => token ≠ id
  | .detach _ sources => id ∉ sources

def Callback.whom? : Callback α → Option α
  | .notify whom => some whom
  | .cancel _ | .detach _ _ => none

/-- Whether a reaction leaves a token and its callers alone. -/
def Reaction.Spares (id : TokenId) (callers : List α) : Reaction α → Prop
  | .nothing | .fail _ => True
  | .cancel token => token ≠ id
  | .listen token whom => token ≠ id ∧ whom ∉ callers

namespace TokenNetwork

variable [DecidableEq α]

/-- The callers of a token are known to no other one, and nothing touches the token. -/
structure Untouched (n : TokenNetwork α) (id : TokenId) (callers : List α) : Prop where
  own : ∀ callback ∈ (n.token id).callbacks, ∃ whom ∈ callers, callback = .notify whom
  others : ∀ token, token ≠ id → ∀ callback ∈ (n.token token).callbacks,
    callback.Spares id callers
  reactions : ∀ whom, (n.reactionOf whom).Spares id callers

variable {n m : TokenNetwork α} {id : TokenId} {callers : List α}

namespace Untouched

theorem of_tokens (huntouched : n.Untouched id callers) (hreactions : m.reactions = n.reactions)
    (hown : ∀ callback ∈ (m.token id).callbacks, ∃ whom ∈ callers, callback = .notify whom)
    (hothers : ∀ token, token ≠ id → ∀ callback ∈ (m.token token).callbacks,
      callback ∈ (n.token token).callbacks ∨ callback.Spares id callers) :
    m.Untouched id callers := by
  constructor
  case own => exact hown
  case others =>
      intro token hne callback hmem
      rcases hothers token hne callback hmem with hbefore | hspares
      · exact huntouched.others token hne callback hbefore
      · exact hspares
  case reactions =>
      intro whom
      rw [reactionOf, hreactions]
      exact huntouched.reactions whom

theorem notifyAll (huntouched : n.Untouched id callers) (everyone : List α) :
    (n.notifyAll everyone).Untouched id callers :=
  huntouched.of_tokens rfl huntouched.own fun _ _ _ hmem => .inl hmem

/-- Another token may get other callbacks, if they leave this one alone. -/
theorem withCallbacks (huntouched : n.Untouched id callers) {token : TokenId}
    (hne : token ≠ id) {change : List (Callback α) → List (Callback α)}
    (hchange : ∀ callbacks, ∀ callback ∈ change callbacks,
      callback ∈ callbacks ∨ callback.Spares id callers) :
    (n.withCallbacks token change).Untouched id callers := by
  refine huntouched.of_tokens rfl ?_ ?_
  · rw [token_withCallbacks_of_ne hne]
    exact huntouched.own
  · intro other _ callback hmem
    rcases mem_callbacks_withCallbacks hmem with ⟨rfl, hchanged⟩ | hbefore
    · exact hchange _ callback hchanged
    · exact .inl hbefore

/-- The token itself may get and lose its callers. -/
theorem withOwnCallbacks (huntouched : n.Untouched id callers)
    {change : List (Callback α) → List (Callback α)}
    (hchange : ∀ callbacks, ∀ callback ∈ change callbacks,
      callback ∈ callbacks ∨ ∃ whom ∈ callers, callback = .notify whom) :
    (n.withCallbacks id change).Untouched id callers := by
  refine huntouched.of_tokens rfl ?_ ?_
  · intro callback hmem
    rcases mem_callbacks_withCallbacks hmem with ⟨-, hchanged⟩ | hbefore
    · rcases hchange _ callback hchanged with hbefore | hcall
      · exact huntouched.own callback hbefore
      · exact hcall
    · exact huntouched.own callback hbefore
  · intro other hne callback hmem
    rw [token_withCallbacks_of_ne hne.symm] at hmem
    exact .inl hmem

theorem exhaust (huntouched : n.Untouched id callers) (token : TokenId) :
    (n.exhaust token).Untouched id callers := by
  refine huntouched.of_tokens rfl ?_ ?_
  · by_cases heq : token = id
    · subst heq
      simp
    · rw [token_exhaust_of_ne heq]
      exact huntouched.own
  · intro other _ callback hmem
    by_cases heq : token = other
    · subst heq
      simp at hmem
    · rw [token_exhaust_of_ne heq] at hmem
      exact .inl hmem

/-! ## Who hears of a notification -/

theorem hear_spares (huntouched : n.Untouched id callers) (fuel : Nat) (whom : α) :
    (n.hear fuel whom).2.Spares id callers ∧
      (whom ∉ callers → ∀ someone ∈ (n.hear fuel whom).1, someone ∉ callers) := by
  induction fuel generalizing whom with
  | zero => simp [hear, Reaction.Spares]
  | succ fuel ih =>
      have hreaction := huntouched.reactions whom
      unfold hear
      split
      · rename_i token other hlisten
        rw [hlisten] at hreaction
        split
        · refine ⟨(ih other).1, fun hwhom => ?_⟩
          exact List.forall_mem_cons.mpr ⟨hwhom, (ih other).2 hreaction.2⟩
        · exact ⟨hreaction, by simp⟩
      · exact ⟨hreaction, by simp⟩

theorem heard_spares (huntouched : n.Untouched id callers) (whom : α) :
    (n.heard whom).2.Spares id callers :=
  (huntouched.hear_spares (n.reactions.length + 1) whom).1

/-- Of the callers, only the one that is notified hears of it. -/
theorem heard_filter (huntouched : n.Untouched id callers) (whom : α) :
    (n.heard whom).1.filter (· ∈ callers) = [whom].filter (· ∈ callers) := by
  have hreaction := huntouched.reactions whom
  unfold heard hear
  split
  · rename_i token other hlisten
    rw [hlisten] at hreaction
    split
    · have hothers := (huntouched.hear_spares n.reactions.length other).2 hreaction.2
      have hnone : (n.hear n.reactions.length other).1.filter (· ∈ callers) = [] := by
        simpa [List.filter_eq_nil_iff] using hothers
      simp only [List.filter_cons, hnone, List.filter_nil]
    · rfl
  · rfl

end Untouched

/-! ## Runs -/

/-- The callers that an agenda names, in order. -/
def named (callers : List α) (agenda : List (Callback α)) : List α :=
  (agenda.filterMap (·.whom?)).filter (· ∈ callers)

theorem named_append (callers : List α) (agenda later : List (Callback α)) :
    named callers (agenda ++ later) = named callers agenda ++ named callers later := by
  simp [named]

theorem named_cons (callers : List α) (callback : Callback α) (rest : List (Callback α)) :
    named callers (callback :: rest) = named callers [callback] ++ named callers rest :=
  named_append callers [callback] rest

theorem named_map_notify {everyone : List α} (hcallers : ∀ whom ∈ everyone, whom ∈ callers) :
    named callers (everyone.map .notify) = everyone := by
  have hnames : (everyone.map Callback.notify).filterMap (·.whom?) = everyone := by
    rw [List.filterMap_map]
    exact List.filterMap_some
  rw [named, hnames, List.filter_eq_self]
  simpa using hcallers

/-- The callers of a token that have been notified, in order. -/
def heardOf (n : TokenNetwork α) (callers : List α) : List α :=
  n.notified.filter (· ∈ callers)

theorem heardOf_notifyAll (n : TokenNetwork α) (callers everyone : List α) :
    (n.notifyAll everyone).heardOf callers =
      n.heardOf callers ++ everyone.filter (· ∈ callers) := by
  simp [heardOf, TokenNetwork.notifyAll]

/-- A network has become another one, a token was left alone, and some of its callers were
notified. -/
structure Leaves (n : TokenNetwork α) (id : TokenId) (callers heard : List α)
    (m : TokenNetwork α) : Prop where
  untouched : m.Untouched id callers
  token : m.token id = n.token id
  heard : m.heardOf callers = n.heardOf callers ++ heard

theorem Leaves.isCancelled_eq {heard : List α} (hleaves : n.Leaves id callers heard m) :
    m.isCancelled id = n.isCancelled id :=
  congrArg Token.cancelled hleaves.token

theorem Leaves.trans {k : TokenNetwork α} {first later : List α}
    (hfirst : n.Leaves id callers first m) (hlater : m.Leaves id callers later k) :
    n.Leaves id callers (first ++ later) k :=
  ⟨hlater.untouched, hlater.token.trans hfirst.token, by
    rw [hlater.heard, hfirst.heard, List.append_assoc]⟩

namespace Untouched

theorem leaves_notifyAll (huntouched : n.Untouched id callers) (whom : α) :
    n.Leaves id callers (named callers [.notify whom]) (n.notifyAll (n.heard whom).1) := by
  refine ⟨huntouched.notifyAll _, rfl, ?_⟩
  rw [heardOf_notifyAll, huntouched.heard_filter]
  rfl

theorem leaves_append (huntouched : n.Untouched id callers) {token : TokenId} {whom : α}
    (hspares : (Reaction.listen token whom).Spares id callers) :
    n.Leaves id callers [] (n.append token (.notify whom)) := by
  refine ⟨huntouched.withCallbacks hspares.1 ?_, token_withCallbacks_of_ne hspares.1 _, ?_⟩
  · intro callbacks callback hmem
    rcases List.mem_append.mp hmem with hbefore | hnew
    · exact .inl hbefore
    · rw [List.mem_singleton.mp hnew]
      exact .inr hspares.2
  · simp [heardOf, append, TokenNetwork.withCallbacks]

theorem leaves_detach (huntouched : n.Untouched id callers) (merged : TokenId)
    {sources : List TokenId} (hspares : id ∉ sources) :
    n.Leaves id callers [] (n.detach merged sources) := by
  unfold detach
  induction sources generalizing n with
  | nil => exact ⟨huntouched, rfl, by simp⟩
  | cons source rest ih =>
      rw [List.mem_cons, not_or] at hspares
      have hne : source ≠ id := fun heq => hspares.1 heq.symm
      have hfirst : (n.unregister source (.cancel merged)).Untouched id callers :=
        huntouched.withCallbacks hne fun _ _ hmem => .inl (List.mem_of_mem_erase hmem)
      have hrest := ih hfirst hspares.2
      exact ⟨hrest.untouched, hrest.token.trans (token_withCallbacks_of_ne hne _), hrest.heard⟩

theorem leaves_exhaust (huntouched : n.Untouched id callers) {token : TokenId}
    (hne : token ≠ id) : n.Leaves id callers [] (n.exhaust token) :=
  ⟨huntouched.exhaust token, token_exhaust_of_ne hne, by simp [heardOf, TokenNetwork.exhaust]⟩

/-- What another token holds is for nobody of the callers. -/
theorem named_of_ne (huntouched : n.Untouched id callers) {token : TokenId}
    (hne : token ≠ id) : named callers (n.token token).callbacks = [] := by
  rw [named, List.filter_eq_nil_iff]
  intro whom hmem
  obtain ⟨callback, hcallback, hwhom⟩ := List.mem_filterMap.mp hmem
  have hspares := huntouched.others token hne callback hcallback
  cases callback with
  | notify other =>
      obtain rfl : other = whom := Option.some.inj hwhom
      have hother : other ∉ callers := hspares
      simpa using hother
  | cancel _ => exact absurd hwhom (by simp [Callback.whom?])
  | detach _ _ => exact absurd hwhom (by simp [Callback.whom?])

end Untouched

/-- An agenda that leaves a token alone notifies, of its callers, those whom it names. -/
theorem Untouched.leaves_run (huntouched : n.Untouched id callers)
    {agenda : List (Callback α)} (hagenda : ∀ callback ∈ agenda,
      (∃ whom ∈ callers, callback = .notify whom) ∨ callback.Spares id callers) :
    n.Leaves id callers (named callers agenda) (n.run agenda) := by
  fun_induction TokenNetwork.run n agenda with
  | case1 n => exact ⟨huntouched, rfl, by simp [named]⟩
  | case2 n whom rest m token hreaction ih =>
      have hstep := huntouched.leaves_notifyAll whom
      have hspares := huntouched.heard_spares whom
      rw [hreaction] at hspares
      have hrest := ih hstep.untouched
        (List.forall_mem_cons.mpr ⟨.inr hspares, (List.forall_mem_cons.mp hagenda).2⟩)
      rw [named_cons]
      exact hstep.trans hrest
  | case3 n whom rest m token other hreaction ih =>
      have hstep := huntouched.leaves_notifyAll whom
      have hspares := huntouched.heard_spares whom
      rw [hreaction] at hspares
      have hlisten := hstep.untouched.leaves_append hspares
      have hrest := ih hlisten.untouched (List.forall_mem_cons.mp hagenda).2
      rw [named_cons]
      exact hstep.trans (hlisten.trans hrest)
  | case4 n whom rest m hreaction ih | case5 n whom rest m fault hreaction ih =>
      have hstep := huntouched.leaves_notifyAll whom
      rw [named_cons]
      exact hstep.trans (ih hstep.untouched (List.forall_mem_cons.mp hagenda).2)
  | case6 n merged sources rest ih =>
      obtain ⟨hfirst, hlater⟩ := List.forall_mem_cons.mp hagenda
      have hspares : id ∉ sources := by
        rcases hfirst with ⟨whom, -, hcall⟩ | hspares
        · exact absurd hcall (by simp)
        · exact hspares
      have hstep := huntouched.leaves_detach merged hspares
      exact hstep.trans (ih hstep.untouched hlater)
  | case7 n token rest hnone ih | case8 n token rest t hfound hdone ih =>
      exact ih huntouched (List.forall_mem_cons.mp hagenda).2
  | case9 n token rest t hfound hlive ih =>
      obtain ⟨hfirst, hlater⟩ := List.forall_mem_cons.mp hagenda
      have hne : token ≠ id := by
        rcases hfirst with ⟨whom, -, hcall⟩ | hspares
        · exact absurd hcall (by simp)
        · exact hspares
      have htoken : n.token token = t := by
        simp [TokenNetwork.token, List.getD_eq_getElem?_getD, hfound]
      have hothers := huntouched.others token hne
      have hnamed := huntouched.named_of_ne hne
      rw [htoken] at hothers hnamed
      have hstep := huntouched.leaves_exhaust hne
      have hrest := ih hstep.untouched fun callback hmem =>
        (List.mem_append.mp hmem).elim (fun hheld => .inr (hothers callback hheld))
          (hlater callback)
      rw [named_append, hnamed] at hrest
      exact hstep.trans hrest

end TokenNetwork

end RequestBreakdown
