import RequestBreakdown.Value.Basic

/-!
# Sameness

Values are the same by their keys, and a value that holds something that equals
nothing is the same as no value.  On all others sameness is an equivalence; on
texts it is equality.
-/

namespace RequestBreakdown.Value

theorem same_iff {a b : Value} :
    a.same b = true ↔ a.key.holdsNaN = false ∧ a.key = b.key := by
  simp [same]

theorem same_symm {a b : Value} (hsame : a.same b = true) : b.same a = true := by
  rw [same_iff] at hsame ⊢
  obtain ⟨hfree, hkey⟩ := hsame
  exact ⟨hkey ▸ hfree, hkey.symm⟩

theorem same_trans {a b c : Value} (hfirst : a.same b = true)
    (hthen : b.same c = true) : a.same c = true := by
  rw [same_iff] at hfirst hthen ⊢
  exact ⟨hfirst.1, hfirst.2.trans hthen.2⟩

theorem same_text {name other : String} :
    (text name).same (text other) = true ↔ name = other := by
  simp [same_iff, key, holdsNaN]

end RequestBreakdown.Value
