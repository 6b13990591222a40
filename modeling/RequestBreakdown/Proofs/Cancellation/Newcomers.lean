import RequestBreakdown.Proofs.Cancellation.Network

/-!
# Newcomers

Someone whom nobody else in a network knows registers with a token.  When the token
is cancelled, the newcomer is notified last, and everything else happens as it would
have without.  When the registration is taken back, the network is as it was.
-/

namespace RequestBreakdown

namespace TokenNetwork

variable {α : Type}

/-- Who is registered, who reacts and who is to be notified by a reaction is known. -/
structure KnowsOnly (n : TokenNetwork α) [DecidableEq α] (known : α → Prop) : Prop where
  registered : ∀ id whom, .notify whom ∈ (n.token id).callbacks → known whom
  listening : ∀ whom id other, n.reactionOf whom = .listen id other → known other
  reacting : ∀ whom, ¬ known whom → n.reactionOf whom = .nothing

/-- Changing the callbacks of a token to what they are changes nothing. -/
theorem withCallbacks_of_fixed {n : TokenNetwork α} {id : TokenId}
    {change : List (Callback α) → List (Callback α)}
    (hfixed : change (n.token id).callbacks = (n.token id).callbacks) :
    n.withCallbacks id change = n := by
  have htokens : n.tokens.modify id (fun t => { t with callbacks := change t.callbacks }) =
      n.tokens := by
    apply List.ext_getElem?
    intro other
    rw [List.getElem?_modify]
    cases hfound : n.tokens[other]? with
    | none => rfl
    | some t =>
        by_cases heq : id = other
        · subst heq
          have htoken : n.token id = t := by
            simp [token, List.getD_eq_getElem?_getD, hfound]
          rw [htoken] at hfixed
          simp [hfixed]
        · simp [heq]
  unfold withCallbacks
  rw [htokens]

variable [DecidableEq α]

theorem unregister_of_notMem {n : TokenNetwork α} {id : TokenId} {callback : Callback α}
    (hnew : callback ∉ (n.token id).callbacks) : n.unregister id callback = n :=
  withCallbacks_of_fixed (List.erase_of_not_mem hnew)

/-- What was registered last and only once is taken back without a trace. -/
theorem unregister_append {n : TokenNetwork α} {id : TokenId} {callback : Callback α}
    (hnew : callback ∉ (n.token id).callbacks) :
    (n.append id callback).unregister id callback = n := by
  have hboth : (n.append id callback).unregister id callback =
      n.withCallbacks id fun callbacks => (callbacks ++ [callback]).erase callback := by
    unfold append unregister withCallbacks
    simp only [List.modify_modify_eq]
    rfl
  rw [hboth]
  apply withCallbacks_of_fixed
  rw [List.erase_append_right _ hnew]
  simp

/-! ## Runs of an agenda -/

theorem run_notify (n : TokenNetwork α) (whom : α) (rest : List (Callback α)) :
    n.run (.notify whom :: rest) = match (n.heard whom).2 with
      | .cancel id => (n.notifyAll (n.heard whom).1).run (.cancel id :: rest)
      | .listen id other =>
        ((n.notifyAll (n.heard whom).1).append id (.notify other)).run rest
      | .nothing | .fail _ => (n.notifyAll (n.heard whom).1).run rest := by
  have hrun := run.eq_def n (.notify whom :: rest)
  cases hreaction : (n.heard whom).2 <;> simp only [hrun, hreaction]

theorem run_detach (n : TokenNetwork α) (merged : TokenId) (sources : List TokenId)
    (rest : List (Callback α)) :
    n.run (.detach merged sources :: rest) = (n.detach merged sources).run rest := by
  rw [run]

theorem run_cancel_of_done {n : TokenNetwork α} {id : TokenId}
    (hdone : ∀ t, n.tokens[id]? = some t → t.cancelled = true)
    (rest : List (Callback α)) : n.run (.cancel id :: rest) = n.run rest := by
  rw [run.eq_def]
  dsimp only
  split
  · rfl
  · rename_i t hfound
    rw [if_pos (hdone t hfound)]

/-- What stands later in an agenda runs when all before it is done. -/
theorem run_append (n : TokenNetwork α) (agenda later : List (Callback α)) :
    n.run (agenda ++ later) = (n.run agenda).run later := by
  fun_induction run n agenda with
  | case1 n => rfl
  | case2 n whom rest m id hreaction ih =>
      rw [List.cons_append, run_notify, hreaction]
      exact ih
  | case3 n whom rest m id other hreaction ih =>
      rw [List.cons_append, run_notify, hreaction]
      exact ih
  | case4 n whom rest m hreaction ih =>
      rw [List.cons_append, run_notify, hreaction]
      exact ih
  | case5 n whom rest m fault hreaction ih =>
      rw [List.cons_append, run_notify, hreaction]
      exact ih
  | case6 n merged sources rest ih =>
      rw [List.cons_append, run_detach]
      exact ih
  | case7 n id rest hfound ih =>
      rw [List.cons_append, run_cancel_of_done (by simp [hfound])]
      exact ih
  | case8 n id rest t hfound hcancelled ih =>
      rw [List.cons_append, run_cancel_of_done (by simpa [hfound] using hcancelled)]
      exact ih
  | case9 n id rest t hfound hlive ih =>
      rw [List.cons_append, run_cancel_of_live hfound (by simpa using hlive)]
      rw [← List.append_assoc]
      exact ih

theorem reactions_detach (n : TokenNetwork α) (merged : TokenId) (sources : List TokenId) :
    (n.detach merged sources).reactions = n.reactions := by
  unfold detach
  induction sources generalizing n with
  | nil => rfl
  | cons source rest ih =>
      rw [List.foldl_cons]
      exact ih _

theorem reactions_run (n : TokenNetwork α) (agenda : List (Callback α)) :
    (n.run agenda).reactions = n.reactions := by
  fun_induction run n agenda with
  | case1 n => rfl
  | case6 n merged sources rest ih => exact ih.trans (reactions_detach n merged sources)
  | _ => assumption

theorem heard_of_silent {n : TokenNetwork α} {whom : α}
    (hsilent : n.reactionOf whom = .nothing) : n.heard whom = ([whom], .nothing) := by
  unfold heard hear
  rw [hsilent]

/-- Someone who does not react hears of a cancellation after all others. -/
theorem cancel_append {n : TokenNetwork α} {id : TokenId} {whom : α}
    (hlt : id < n.tokens.length) (hlive : n.isCancelled id = false)
    (hsilent : n.reactionOf whom = .nothing) :
    (n.append id (.notify whom)).cancel id = (n.cancel id).notifyAll [whom] := by
  have hfound : n.tokens[id]? = some n.tokens[id] := List.getElem?_eq_getElem hlt
  have htoken : n.token id = n.tokens[id] := by
    simp [token, List.getD_eq_getElem?_getD, hfound]
  have halive : n.tokens[id].cancelled = false := by
    rwa [← htoken]
  have hlater : (n.append id (.notify whom)).tokens[id]? =
      some { n.tokens[id] with callbacks := n.tokens[id].callbacks ++ [.notify whom] } := by
    simp [append, withCallbacks, hfound]
  have hexhaust : (n.append id (.notify whom)).exhaust id = n.exhaust id := by
    unfold exhaust append withCallbacks
    simp only [TokenNetwork.mk.injEq, and_true]
    apply List.ext_getElem?
    intro other
    by_cases heq : id = other
    · subst heq
      simp [hlt]
    · simp [heq]
  have hlast : (n.cancel id).run [.notify whom] = (n.cancel id).notifyAll [whom] := by
    have hstill : (n.cancel id).reactionOf whom = .nothing := by
      rw [reactionOf, cancel, reactions_run]
      exact hsilent
    rw [run_notify, heard_of_silent hstill]
    exact run.eq_def _ []
  rw [← hlast, cancel, cancel, run_cancel_of_live hlater halive,
    run_cancel_of_live hfound halive, hexhaust, List.append_nil, List.append_nil, run_append]

/-! ## Who is known -/

section KnowsOnly

variable {n : TokenNetwork α} {known : α → Prop}

theorem exists_reaction_of_hear {fuel : Nat} {whom other : α} {id : TokenId}
    (hhear : (n.hear fuel whom).2 = .listen id other) :
    ∃ last, n.reactionOf last = .listen id other := by
  induction fuel generalizing whom with
  | zero => simp [hear] at hhear
  | succ fuel ih =>
      unfold hear at hhear
      split at hhear
      · rename_i hreaction
        split at hhear
        · exact ih hhear
        · obtain ⟨rfl, rfl⟩ := Reaction.listen.inj hhear
          exact ⟨whom, hreaction⟩
      · exact ⟨whom, hhear⟩

theorem KnowsOnly.of_callbacks (hknows : n.KnowsOnly known) {m : TokenNetwork α}
    (hreactions : m.reactions = n.reactions)
    (hcallbacks : ∀ id whom, .notify whom ∈ (m.token id).callbacks →
      known whom ∨ .notify whom ∈ (n.token id).callbacks) : m.KnowsOnly known := by
  have hsame : ∀ whom, m.reactionOf whom = n.reactionOf whom := by
    intro whom
    rw [reactionOf, hreactions, reactionOf]
  constructor
  case registered =>
      intro id whom hmem
      rcases hcallbacks id whom hmem with hknown | hbefore
      · exact hknown
      · exact hknows.registered id whom hbefore
  case listening =>
      intro whom id other hreaction
      rw [hsame] at hreaction
      exact hknows.listening whom id other hreaction
  case reacting =>
      intro whom hnot
      rw [hsame]
      exact hknows.reacting whom hnot

theorem KnowsOnly.mono (hknows : n.KnowsOnly known) {more : α → Prop}
    (hmore : ∀ whom, known whom → more whom) : n.KnowsOnly more := by
  constructor
  case registered => exact fun id whom hmem => hmore whom (hknows.registered id whom hmem)
  case listening =>
      exact fun whom id other hreaction => hmore other (hknows.listening whom id other hreaction)
  case reacting =>
      exact fun whom hnot => hknows.reacting whom fun hknown => hnot (hmore whom hknown)

theorem KnowsOnly.notifyAll (hknows : n.KnowsOnly known) (everyone : List α) :
    (n.notifyAll everyone).KnowsOnly known :=
  hknows.of_callbacks rfl fun _ _ hmem => .inr hmem

theorem KnowsOnly.append (hknows : n.KnowsOnly known) (id : TokenId) {whom : α}
    (hwhom : known whom) : (n.append id (.notify whom)).KnowsOnly known := by
  refine hknows.of_callbacks rfl ?_
  intro token other hmem
  rcases mem_callbacks_withCallbacks hmem with ⟨rfl, hchanged⟩ | hmem
  · rcases List.mem_append.mp hchanged with hmem | hnew
    · exact .inr hmem
    · obtain rfl : other = whom := by simpa using hnew
      exact .inl hwhom
  · exact .inr hmem

theorem KnowsOnly.detach (hknows : n.KnowsOnly known) (merged : TokenId)
    (sources : List TokenId) : (n.detach merged sources).KnowsOnly known := by
  unfold TokenNetwork.detach
  induction sources generalizing n with
  | nil => exact hknows
  | cons source rest ih =>
      rw [List.foldl_cons]
      apply ih
      refine hknows.of_callbacks rfl ?_
      intro token other hmem
      rcases mem_callbacks_withCallbacks hmem with ⟨rfl, hchanged⟩ | hmem
      · exact .inr (List.mem_of_mem_erase hchanged)
      · exact .inr hmem

theorem KnowsOnly.exhaust (hknows : n.KnowsOnly known) (id : TokenId) :
    (n.exhaust id).KnowsOnly known := by
  refine hknows.of_callbacks rfl ?_
  intro token whom hmem
  by_cases heq : id = token
  · subst heq
    simp at hmem
  · rw [token_exhaust_of_ne heq] at hmem
    exact .inr hmem

/-- Nobody becomes known by what runs. -/
theorem KnowsOnly.run (hknows : n.KnowsOnly known) {agenda : List (Callback α)}
    (hagenda : ∀ whom, .notify whom ∈ agenda → known whom) :
    (n.run agenda).KnowsOnly known := by
  fun_induction TokenNetwork.run n agenda with
  | case1 n => exact hknows
  | case2 n whom rest m id hreaction ih =>
      apply ih (hknows.notifyAll _)
      intro other hmem
      exact hagenda other (List.mem_cons_of_mem _ (by simpa using hmem))
  | case3 n whom rest m id other hreaction ih =>
      obtain ⟨last, hlast⟩ := exists_reaction_of_hear hreaction
      have hother : known other := hknows.listening last id other hlast
      apply ih ((hknows.notifyAll _).append id hother)
      exact fun someone hmem => hagenda someone (List.mem_cons_of_mem _ hmem)
  | case6 n merged sources rest ih =>
      apply ih (hknows.detach merged sources)
      exact fun someone hmem => hagenda someone (List.mem_cons_of_mem _ hmem)
  | case9 n id rest t hfound hlive ih =>
      have htoken : n.token id = t := by
        simp [TokenNetwork.token, List.getD_eq_getElem?_getD, hfound]
      apply ih (hknows.exhaust id)
      intro someone hmem
      rcases List.mem_append.mp hmem with hheld | hrest
      · exact hknows.registered id someone (htoken ▸ hheld)
      · exact hagenda someone (List.mem_cons_of_mem _ hrest)
  | case4 n whom rest m hreaction ih | case5 n whom rest m fault hreaction ih =>
      apply ih (hknows.notifyAll _)
      exact fun someone hmem => hagenda someone (List.mem_cons_of_mem _ hmem)
  | case7 n id rest hnone ih | case8 n id rest t hfound hdone ih =>
      apply ih hknows
      exact fun someone hmem => hagenda someone (List.mem_cons_of_mem _ hmem)

theorem KnowsOnly.cancel (hknows : n.KnowsOnly known) (id : TokenId) :
    (n.cancel id).KnowsOnly known :=
  hknows.run fun whom hmem => by simp at hmem

end KnowsOnly

end TokenNetwork

end RequestBreakdown
