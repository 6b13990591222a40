import RequestBreakdown.Proofs.Cancellation.Network

/-!
# What a cancellation sets off

A token that is cancelled runs what it holds, and that may cancel further tokens:
directly, or because someone who is notified reacts by cancelling one.  Someone
may also react by having another one notified with a token; that comes about when
this token is cancelled, before or on the way.  Nothing else is cancelled.
-/

namespace RequestBreakdown

namespace TokenNetwork

variable {α : Type} [DecidableEq α] {n m : TokenNetwork α} {id : TokenId}

/-- The callbacks that may run when a token is cancelled. -/
inductive SetsOff (n : TokenNetwork α) (id : TokenId) : Callback α → Prop where
  | first : SetsOff n id (.cancel id)
  | held {token : TokenId} {callback : Callback α}
      (hcancel : SetsOff n id (.cancel token)) (hlive : n.isCancelled token = false)
      (hmem : callback ∈ (n.token token).callbacks) : SetsOff n id callback
  | cancels {whom : α} {token : TokenId} (hnotify : SetsOff n id (.notify whom))
      (hreaction : n.reactionOf whom = .cancel token) : SetsOff n id (.cancel token)
  | listens {whom other : α} {token : TokenId} (hnotify : SetsOff n id (.notify whom))
      (hreaction : n.reactionOf whom = .listen token other)
      (hdone : n.isCancelled token = true) : SetsOff n id (.notify other)
  | waits {whom other : α} {token : TokenId} (hnotify : SetsOff n id (.notify whom))
      (hreaction : n.reactionOf whom = .listen token other)
      (hcancel : SetsOff n id (.cancel token)) : SetsOff n id (.notify other)

/-- How far the cancellation of a token has spread in a network. -/
structure Spreads (n : TokenNetwork α) (id : TokenId) (m : TokenNetwork α)
    (agenda : List (Callback α)) : Prop where
  reactions : m.reactions = n.reactions
  cancelled : ∀ token, m.isCancelled token = true →
    n.isCancelled token = true ∨ SetsOff n id (.cancel token)
  held : ∀ token, m.isCancelled token = false →
    ∀ callback ∈ (m.token token).callbacks,
      SetsOff n id (.cancel token) → SetsOff n id callback
  agenda : ∀ callback ∈ agenda, SetsOff n id callback

theorem spreads_cancel (n : TokenNetwork α) (id : TokenId) :
    Spreads n id n [.cancel id] := by
  constructor
  case reactions => rfl
  case cancelled => exact fun token hdone => .inl hdone
  case held => exact fun token hlive callback hmem hcancel => .held hcancel hlive hmem
  case agenda =>
      intro callback hmem
      rw [List.mem_singleton.mp hmem]
      exact .first

variable {rest : List (Callback α)}

theorem Spreads.tail {callback : Callback α}
    (hspreads : Spreads n id m (callback :: rest)) : Spreads n id m rest :=
  ⟨hspreads.reactions, hspreads.cancelled, hspreads.held,
    fun _ hmem => hspreads.agenda _ (List.mem_cons_of_mem _ hmem)⟩

/-- Whoever is notified last reacts; or it goes wrong. -/
theorem Spreads.exists_reaction {agenda : List (Callback α)}
    (hspreads : Spreads n id m agenda) (fuel : Nat) {whom : α}
    (hnotify : SetsOff n id (.notify whom)) :
    ∃ last, SetsOff n id (.notify last) ∧
      ((m.hear fuel whom).2 = n.reactionOf last ∨
        ∃ fault, (m.hear fuel whom).2 = .fail fault) := by
  have hsame : ∀ someone, m.reactionOf someone = n.reactionOf someone := fun someone => by
    rw [reactionOf, hspreads.reactions, reactionOf]
  induction fuel generalizing whom with
  | zero => exact ⟨whom, hnotify, .inr ⟨endless, rfl⟩⟩
  | succ fuel ih =>
      have hreaction := hsame whom
      unfold hear
      split
      · rename_i token other hlisten
        rw [hlisten] at hreaction
        split
        · rename_i hdone
          refine ih ?_
          rcases hspreads.cancelled token hdone with hbefore | hcancel
          · exact .listens hnotify hreaction.symm hbefore
          · exact .waits hnotify hreaction.symm hcancel
        · exact ⟨whom, hnotify, .inl hreaction⟩
      · exact ⟨whom, hnotify, .inl hreaction⟩

theorem Spreads.notifyAll {agenda : List (Callback α)}
    (hspreads : Spreads n id m agenda) (everyone : List α) :
    Spreads n id (m.notifyAll everyone) agenda :=
  ⟨hspreads.reactions, hspreads.cancelled, hspreads.held, hspreads.agenda⟩

theorem Spreads.withCallbacks {agenda : List (Callback α)}
    (hspreads : Spreads n id m agenda) (token : TokenId)
    {change : List (Callback α) → List (Callback α)}
    (hchange : ∀ callbacks, ∀ callback ∈ change callbacks, callback ∈ callbacks ∨
      (SetsOff n id (.cancel token) → SetsOff n id callback)) :
    Spreads n id (m.withCallbacks token change) agenda := by
  constructor
  case reactions => exact hspreads.reactions
  case cancelled => simpa using hspreads.cancelled
  case held =>
      intro other hlive callback hmem
      rw [isCancelled_withCallbacks] at hlive
      rcases mem_callbacks_withCallbacks hmem with ⟨rfl, hchanged⟩ | hmem
      · rcases hchange _ callback hchanged with hmem | hsets
        · exact hspreads.held other hlive callback hmem
        · exact hsets
      · exact hspreads.held other hlive callback hmem
  case agenda => exact hspreads.agenda

theorem Spreads.detach {merged : TokenId} {sources : List TokenId}
    (hspreads : Spreads n id m (.detach merged sources :: rest)) :
    Spreads n id (m.detach merged sources) rest := by
  have hrest := hspreads.tail
  clear hspreads
  unfold TokenNetwork.detach
  induction sources generalizing m with
  | nil => exact hrest
  | cons source others ih =>
      rw [List.foldl_cons]
      refine ih (hrest.withCallbacks source fun callbacks callback hmem => .inl ?_)
      exact List.mem_of_mem_erase hmem

theorem Spreads.exhaust {token : TokenId}
    (hspreads : Spreads n id m (.cancel token :: rest))
    (hlt : token < m.tokens.length) (hlive : m.isCancelled token = false) :
    Spreads n id (m.exhaust token) ((m.token token).callbacks ++ rest) := by
  have hcancel := hspreads.agenda _ List.mem_cons_self
  constructor
  case reactions => exact hspreads.reactions
  case cancelled =>
      intro other hdone
      rcases (isCancelled_exhaust_iff hlt).mp hdone with rfl | hbefore
      · exact .inr hcancel
      · exact hspreads.cancelled other hbefore
  case held =>
      intro other hstill callback hmem
      have hne : token ≠ other := by
        rintro rfl
        rw [isCancelled_exhaust hlt] at hstill
        exact absurd hstill (by decide)
      rw [isCancelled, token_exhaust_of_ne hne] at hstill
      rw [token_exhaust_of_ne hne] at hmem
      exact hspreads.held other hstill callback hmem
  case agenda =>
      intro callback hmem
      rcases List.mem_append.mp hmem with hheld | hrest
      · exact hspreads.held token hlive callback hheld hcancel
      · exact hspreads.agenda callback (List.mem_cons_of_mem _ hrest)

theorem Spreads.run {agenda : List (Callback α)}
    (hspreads : Spreads n id m agenda) : Spreads n id (m.run agenda) [] := by
  fun_induction TokenNetwork.run m agenda with
  | case1 m => exact hspreads
  | case2 m whom rest k token hreaction ih =>
      obtain ⟨last, hnotify, hlast | ⟨fault, hfail⟩⟩ := hspreads.exists_reaction
        (m.reactions.length + 1) (hspreads.agenda _ List.mem_cons_self)
      · have hcancel : SetsOff n id (.cancel token) :=
          .cancels hnotify (hlast.symm.trans hreaction)
        have hrest := hspreads.tail.notifyAll (m.heard whom).1
        refine ih ⟨hrest.reactions, hrest.cancelled, hrest.held, ?_⟩
        exact List.forall_mem_cons.mpr ⟨hcancel, hrest.agenda⟩
      · exact absurd (hreaction.symm.trans hfail) (by simp)
  | case3 m whom rest k token other hreaction ih =>
      obtain ⟨last, hnotify, hlast | ⟨fault, hfail⟩⟩ := hspreads.exists_reaction
        (m.reactions.length + 1) (hspreads.agenda _ List.mem_cons_self)
      · have hrest := hspreads.tail.notifyAll (m.heard whom).1
        refine ih (hrest.withCallbacks token fun callbacks callback hmem => ?_)
        rcases List.mem_append.mp hmem with hbefore | hnew
        · exact .inl hbefore
        · rw [List.mem_singleton.mp hnew]
          exact .inr fun hcancel => .waits hnotify (hlast.symm.trans hreaction) hcancel
      · exact absurd (hreaction.symm.trans hfail) (by simp)
  | case4 m whom rest k hreaction ih => exact ih (hspreads.tail.notifyAll _)
  | case5 m whom rest k fault hreaction ih => exact ih (hspreads.tail.notifyAll _)
  | case6 m merged sources rest ih => exact ih hspreads.detach
  | case7 m token rest hnone ih => exact ih hspreads.tail
  | case8 m token rest t hfound hdone ih => exact ih hspreads.tail
  | case9 m token rest t hfound hlive ih =>
      have hlt := (List.getElem?_eq_some_iff.mp hfound).1
      have htoken : m.token token = t := by
        simp [TokenNetwork.token, List.getD_eq_getElem?_getD, hfound]
      have hexhaust := hspreads.exhaust hlt (by simpa [isCancelled, htoken] using hlive)
      rw [htoken] at hexhaust
      exact ih hexhaust

/-- Only what a cancellation sets off is cancelled by it. -/
theorem setsOff_of_isCancelled_cancel {token : TokenId}
    (hcancelled : (n.cancel id).isCancelled token = true) :
    n.isCancelled token = true ∨ SetsOff n id (.cancel token) :=
  (spreads_cancel n id).run.cancelled token hcancelled

end TokenNetwork

end RequestBreakdown
