import RequestBreakdown.Fault

/-!
# Computations that can fail

A computation with a state either ends well or in a fault, and its state is kept in
both cases.  One that follows another only runs where the other has ended well.
-/

namespace RequestBreakdown

namespace Stateful

variable {σ α β : Type}

theorem run_bind (x : ExceptT Fault (StateM σ) α)
    (f : α → ExceptT Fault (StateM σ) β) (s : σ) :
    (x >>= f) s = match x s with
      | (.ok a, s) => f a s
      | (.error fault, s) => (.error fault, s) := by
  change (ExceptT.bindCont f (x s).1 : StateM σ _) (x s).2 = _
  rcases x s with ⟨fault | a, s⟩ <;> rfl

/-- What has ended well has done so in all its parts. -/
theorem run_bind_ok {x : ExceptT Fault (StateM σ) α}
    {f : α → ExceptT Fault (StateM σ) β} {b : β} {s next : σ}
    (hrun : (x >>= f) s = (.ok b, next)) :
    ∃ a middle, x s = (.ok a, middle) ∧ f a middle = (.ok b, next) := by
  rw [run_bind] at hrun
  cases hx : x s with
  | mk outcome middle =>
      rw [hx] at hrun
      cases outcome with
      | error fault => exact absurd (congrArg Prod.fst hrun) (by simp)
      | ok a => exact ⟨a, middle, rfl, hrun⟩

theorem run_pure (a : α) (s : σ) :
    (pure a : ExceptT Fault (StateM σ) α) s = (.ok a, s) := rfl

theorem run_get (s : σ) : (get : ExceptT Fault (StateM σ) σ) s = (.ok s, s) := rfl

theorem run_tryCatch (x : ExceptT Fault (StateM σ) α)
    (handler : Fault → ExceptT Fault (StateM σ) α) (s : σ) :
    (tryCatch x handler) s = match x s with
      | (.ok a, s) => (.ok a, s)
      | (.error fault, s) => handler fault s := by
  simp only [tryCatch, tryCatchThe, MonadExceptOf.tryCatch, ExceptT.tryCatch,
    ExceptT.mk, bind, StateT.bind]
  rcases x s with ⟨fault | a, s⟩ <;> rfl

theorem run_discard (x : ExceptT Fault (StateM σ) α) (s : σ) :
    (discard x) s = match x s with
      | (.ok _, s) => (.ok (), s)
      | (.error fault, s) => (.error fault, s) :=
  run_bind x (fun _ => pure ()) s

theorem run_ofExcept (outcome : Except Fault α) (s : σ) :
    (MonadExcept.ofExcept outcome : ExceptT Fault (StateM σ) α) s = (outcome, s) := by
  cases outcome <;> rfl

end Stateful

end RequestBreakdown
