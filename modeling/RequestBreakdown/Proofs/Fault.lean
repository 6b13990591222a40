import Mathlib.Data.List.Forall2
import RequestBreakdown.Fault

/-!
# Computations that can end in a fault

What it means for one, or for one after the other, to come to something.
-/

namespace RequestBreakdown

theorem bind_eq_ok {ε α β : Type} {x : Except ε α} {f : α → Except ε β}
    {b : β} : (x >>= f) = .ok b ↔ ∃ a, x = .ok a ∧ f a = .ok b := by
  cases x with
  | error fault =>
      constructor
      · intro h
        cases h
      · rintro ⟨a, ha, -⟩
        cases ha
  | ok a =>
      constructor
      · intro h
        exact ⟨a, rfl, h⟩
      · rintro ⟨a, ⟨⟩, h⟩
        exact h

theorem discard_eq_ok {α : Type} {x : Except Fault α} {u : PUnit} :
    discard x = .ok u ↔ ∃ a, x = .ok a := by
  cases x with
  | error fault =>
      constructor
      · intro h
        cases h
      · rintro ⟨a, ⟨⟩⟩
  | ok a => exact ⟨fun _ => ⟨a, rfl⟩, fun _ => rfl⟩

theorem mapM_eq_ok {α β : Type} {f : α → Except Fault β} {g : α → β} {xs : List α}
    (hxs : ∀ x ∈ xs, f x = .ok (g x)) : xs.mapM f = .ok (xs.map g) := by
  induction xs with
  | nil => rfl
  | cons x rest ih =>
      have hrest := ih fun z hz => hxs z (List.mem_cons_of_mem x hz)
      rw [List.mapM_cons, hxs x List.mem_cons_self, hrest]
      rfl

/-- What comes to something for each of some items does for all of them in turn. -/
theorem exists_mapM {α β : Type} {f : α → Except Fault β} {R : α → β → Prop}
    {xs : List α} (hxs : ∀ x ∈ xs, ∃ y, f x = .ok y ∧ R x y) :
    ∃ ys, xs.mapM f = .ok ys ∧ List.Forall₂ R xs ys := by
  induction xs with
  | nil => exact ⟨[], rfl, .nil⟩
  | cons x rest ih =>
      obtain ⟨y, hy, hxy⟩ := hxs x List.mem_cons_self
      obtain ⟨ys, hys, hall⟩ := ih fun z hz => hxs z (List.mem_cons_of_mem x hz)
      refine ⟨y :: ys, ?_, .cons hxy hall⟩
      rw [List.mapM_cons, hy, hys]
      rfl

theorem forall_right_of_forall₂ {α β : Type} {R : α → β → Prop} {p : β → Prop}
    {xs : List α} {ys : List β} (hall : List.Forall₂ R xs ys)
    (himp : ∀ x y, R x y → p y) : ∀ y ∈ ys, p y := by
  induction hall with
  | nil => simp
  | cons hxy _ ih => exact List.forall_mem_cons.mpr ⟨himp _ _ hxy, ih⟩

end RequestBreakdown
