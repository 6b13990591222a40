import RequestBreakdown.Cancellation.Token

/-!
# Cancelled tokens stay cancelled

Whatever happens to a network of tokens, none of them is lost and none that was
cancelled comes back to life: not by callbacks that run or are registered, nor
by tokens that are created, merged or cancelled.
-/

namespace RequestBreakdown

namespace TokenNetwork

variable {α : Type}

theorem isCancelled_iff {n : TokenNetwork α} {id : TokenId} :
    n.isCancelled id = true ↔
      ∃ t, n.tokens[id]? = some t ∧ t.cancelled = true := by
  unfold isCancelled token
  rw [List.getD_eq_getElem?_getD]
  cases n.tokens[id]? with
  | none => simp
  | some t => simp

/-- A network has become another one: it has no fewer tokens, and those that were
cancelled still are. -/
structure Advances (n m : TokenNetwork α) : Prop where
  length_le : n.tokens.length ≤ m.tokens.length
  cancelled : ∀ id, n.isCancelled id = true → m.isCancelled id = true

theorem Advances.refl (n : TokenNetwork α) : n.Advances n :=
  ⟨Nat.le_refl _, fun _ h => h⟩

theorem Advances.trans {n m k : TokenNetwork α} (hfirst : n.Advances m)
    (hthen : m.Advances k) : n.Advances k :=
  ⟨Nat.le_trans hfirst.length_le hthen.length_le,
    fun id h => hthen.cancelled id (hfirst.cancelled id h)⟩

theorem advances_of_tokens {n m : TokenNetwork α} (htokens : m.tokens = n.tokens) :
    n.Advances m := by
  constructor
  · exact Nat.le_of_eq (congrArg List.length htokens.symm)
  · intro id hcancelled
    rw [isCancelled_iff] at hcancelled ⊢
    rwa [htokens]

theorem advances_notifyAll (n : TokenNetwork α) (everyone : List α) :
    n.Advances (n.notifyAll everyone) := advances_of_tokens rfl

theorem advances_withCallbacks (n : TokenNetwork α) (id : TokenId)
    (change : List (Callback α) → List (Callback α)) :
    n.Advances (n.withCallbacks id change) := by
  constructor
  · simp [withCallbacks]
  · intro other hcancelled
    rw [isCancelled_iff] at hcancelled ⊢
    obtain ⟨t, hfound, hdone⟩ := hcancelled
    simp only [withCallbacks, List.getElem?_modify, hfound]
    by_cases heq : id = other
    · exact ⟨{ t with callbacks := change t.callbacks }, by simp [heq], hdone⟩
    · exact ⟨t, by simp [heq], hdone⟩

theorem advances_append (n : TokenNetwork α) (id : TokenId)
    (callback : Callback α) : n.Advances (n.append id callback) :=
  advances_withCallbacks n id _

theorem advances_exhaust (n : TokenNetwork α) (id : TokenId) :
    n.Advances (n.exhaust id) := by
  constructor
  · simp [exhaust]
  · intro other hcancelled
    rw [isCancelled_iff] at hcancelled ⊢
    obtain ⟨t, hfound, hdone⟩ := hcancelled
    have hlt := (List.getElem?_eq_some_iff.mp hfound).1
    by_cases heq : id = other
    · subst heq
      exact ⟨⟨true, []⟩, by simp [exhaust, hlt], rfl⟩
    · exact ⟨t, by simp [exhaust, heq, hfound], hdone⟩

theorem isCancelled_exhaust {n : TokenNetwork α} {id : TokenId}
    (hlt : id < n.tokens.length) : (n.exhaust id).isCancelled id = true :=
  isCancelled_iff.mpr ⟨⟨true, []⟩, by simp [exhaust, hlt], rfl⟩

theorem advances_create (n : TokenNetwork α) : n.Advances n.create.1 := by
  constructor
  · simp [create]
  · intro id hcancelled
    rw [isCancelled_iff] at hcancelled ⊢
    obtain ⟨t, hfound, hdone⟩ := hcancelled
    have hlt := (List.getElem?_eq_some_iff.mp hfound).1
    exact ⟨t, by simp [create, List.getElem?_append_left hlt, hfound], hdone⟩

/-! ## One token at a time -/

@[simp] theorem length_withCallbacks (n : TokenNetwork α) (id : TokenId)
    (change : List (Callback α) → List (Callback α)) :
    (n.withCallbacks id change).tokens.length = n.tokens.length := by
  simp [withCallbacks]

theorem token_withCallbacks_of_ne {n : TokenNetwork α} {id other : TokenId}
    (hne : id ≠ other) (change : List (Callback α) → List (Callback α)) :
    (n.withCallbacks id change).token other = n.token other := by
  simp [token, withCallbacks, List.getD_eq_getElem?_getD, hne]

theorem callbacks_withCallbacks {n : TokenNetwork α} {id : TokenId}
    (hlt : id < n.tokens.length)
    (change : List (Callback α) → List (Callback α)) :
    ((n.withCallbacks id change).token id).callbacks =
      change (n.token id).callbacks := by
  simp [token, withCallbacks, List.getD_eq_getElem?_getD, hlt]

@[simp] theorem isCancelled_withCallbacks (n : TokenNetwork α)
    (id other : TokenId) (change : List (Callback α) → List (Callback α)) :
    (n.withCallbacks id change).isCancelled other = n.isCancelled other := by
  unfold isCancelled
  by_cases heq : id = other
  · subst heq
    cases hfound : n.tokens[id]? <;>
      simp [token, withCallbacks, List.getD_eq_getElem?_getD, hfound]
  · rw [token_withCallbacks_of_ne heq]

theorem token_exhaust_of_ne {n : TokenNetwork α} {id other : TokenId}
    (hne : id ≠ other) : (n.exhaust id).token other = n.token other := by
  simp [token, exhaust, List.getD_eq_getElem?_getD, List.getElem?_set_ne hne]

@[simp] theorem callbacks_exhaust (n : TokenNetwork α) (id : TokenId) :
    ((n.exhaust id).token id).callbacks = [] := by
  by_cases hlt : id < n.tokens.length <;>
    simp [token, exhaust, List.getD_eq_getElem?_getD, hlt]

theorem isCancelled_exhaust_iff {n : TokenNetwork α} {id other : TokenId}
    (hlt : id < n.tokens.length) :
    (n.exhaust id).isCancelled other = true ↔
      other = id ∨ n.isCancelled other = true := by
  by_cases heq : id = other
  · subst heq
    simp [isCancelled_exhaust hlt]
  · simp [isCancelled, token_exhaust_of_ne heq, Ne.symm heq]

/-- A token that is created is as one that there is not: silent and alive. -/
@[simp] theorem token_create (n : TokenNetwork α) (id : TokenId) :
    n.create.1.token id = n.token id := by
  simp only [token, create, List.getD_eq_getElem?_getD]
  rcases Nat.lt_trichotomy id n.tokens.length with hlt | rfl | hgt
  · rw [List.getElem?_append_left hlt]
  · simp
  · have hbeyond : (n.tokens ++ [({} : Token α)]).length ≤ id := by
      rw [List.length_append]
      exact hgt
    rw [List.getElem?_eq_none hbeyond, List.getElem?_eq_none (Nat.le_of_lt hgt)]

theorem token_of_length_le {n : TokenNetwork α} {id : TokenId}
    (hle : n.tokens.length ≤ id) : n.token id = {} := by
  simp [token, List.getD_eq_getElem?_getD, List.getElem?_eq_none hle]

theorem mem_callbacks_withCallbacks {n : TokenNetwork α} {token other : TokenId} {callback : Callback α}
    {change : List (Callback α) → List (Callback α)}
    (hmem : callback ∈ ((n.withCallbacks token change).token other).callbacks) :
    (other = token ∧ callback ∈ change (n.token token).callbacks) ∨
      callback ∈ (n.token other).callbacks := by
  by_cases heq : token = other
  · subst heq
    by_cases hlt : token < n.tokens.length
    · rw [callbacks_withCallbacks hlt] at hmem
      exact .inl ⟨rfl, hmem⟩
    · rw [token_of_length_le (by simpa using hlt)] at hmem
      simp at hmem
  · rw [token_withCallbacks_of_ne heq] at hmem
    exact .inr hmem

section

variable [DecidableEq α]

theorem advances_unregister (n : TokenNetwork α) (id : TokenId)
    (callback : Callback α) : n.Advances (n.unregister id callback) :=
  advances_withCallbacks n id _

theorem advances_detach (n : TokenNetwork α) (merged : TokenId)
    (sources : List TokenId) : n.Advances (n.detach merged sources) := by
  unfold detach
  induction sources generalizing n with
  | nil => exact .refl n
  | cons source rest ih =>
      rw [List.foldl_cons]
      exact (advances_unregister n source _).trans (ih _)

theorem advances_run (n : TokenNetwork α) (agenda : List (Callback α)) :
    n.Advances (n.run agenda) := by
  fun_induction run n agenda with
  | case1 n => exact .refl n
  | case2 n whom rest m id hreaction ih =>
      exact (advances_notifyAll n _).trans ih
  | case3 n whom rest m id other hreaction ih =>
      exact (advances_notifyAll n _).trans ((advances_append m id _).trans ih)
  | case4 n whom rest m hreaction ih => exact (advances_notifyAll n _).trans ih
  | case5 n whom rest m fault hreaction ih =>
      exact (advances_notifyAll n _).trans ih
  | case6 n merged sources rest ih =>
      exact (advances_detach n merged sources).trans ih
  | case7 n id rest hfound ih => exact ih
  | case8 n id rest t hfound hcancelled ih => exact ih
  | case9 n id rest t hfound hlive ih =>
      exact (advances_exhaust n id).trans ih

theorem advances_cancel (n : TokenNetwork α) (id : TokenId) :
    n.Advances (n.cancel id) := advances_run n _

theorem isCancelled_cancel {n : TokenNetwork α} {id : TokenId}
    (hlt : id < n.tokens.length) : (n.cancel id).isCancelled id = true := by
  have hfound : n.tokens[id]? = some n.tokens[id] := List.getElem?_eq_getElem hlt
  unfold cancel
  rw [run.eq_def]
  dsimp only
  split
  · rename_i hnone
    rw [hfound] at hnone
    exact absurd hnone (by simp)
  · rename_i t hsome
    by_cases hcancelled : t.cancelled = true
    · rw [if_pos hcancelled]
      exact (advances_run n []).cancelled id
        (isCancelled_iff.mpr ⟨t, hsome, hcancelled⟩)
    · rw [if_neg hcancelled]
      exact (advances_run (n.exhaust id) _).cancelled id (isCancelled_exhaust hlt)

theorem run_cancel_of_live {n : TokenNetwork α} {id : TokenId} {t : Token α}
    (hfound : n.tokens[id]? = some t) (hlive : t.cancelled = false)
    (rest : List (Callback α)) :
    n.run (.cancel id :: rest) = (n.exhaust id).run (t.callbacks ++ rest) := by
  rw [run.eq_def]
  dsimp only
  split
  · rename_i hnone
    rw [hfound] at hnone
    exact absurd hnone (by simp)
  · rename_i u hu
    obtain rfl : u = t := Option.some.inj (hu.symm.trans hfound)
    simp [hlive]

theorem cancel_of_silent {n : TokenNetwork α} {id : TokenId}
    (hfound : n.tokens[id]? = some {}) : n.cancel id = n.exhaust id := by
  rw [cancel, run_cancel_of_live hfound rfl]
  simp [run]

theorem advances_register (n : TokenNetwork α) (id : TokenId)
    (callback : Callback α) : n.Advances (n.register id callback).1 := by
  unfold register
  split
  · exact advances_run n _
  · exact advances_append n id callback

theorem advances_merge (n : TokenNetwork α) (sources : List TokenId) :
    n.Advances (n.merge sources).1 := by
  have hregister : ∀ (m : TokenNetwork α) (callback : Callback α),
      m.Advances (sources.foldl (fun m source => (m.register source callback).1) m) := by
    intro m callback
    induction sources generalizing m with
    | nil => exact .refl m
    | cons source rest ih =>
        exact (advances_register m source callback).trans (ih _)
  unfold merge
  split
  · exact .refl n
  · exact .refl n
  · dsimp only
    split
    · exact (advances_create n).trans (advances_cancel ..)
    · exact ((advances_create n).trans (hregister _ _)).trans (advances_register ..)

end

end TokenNetwork

end RequestBreakdown
