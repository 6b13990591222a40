import RequestBreakdown.Proofs.Value.WholeNumbers
import RequestBreakdown.Text.Numeral

/-!
# Amounts

A binary64 number that is none of them negative is an amount; infinity is one, and
not-a-number is none.  Sums of amounts are amounts, and so are their products with whole
numbers above zero, so that nothing that is reckoned from numerals without a sign is ever
not-a-number.
-/

namespace RequestBreakdown

namespace Binary64

def IsAmount (x : Binary64) : Prop := x.isNaN = false ∧ x.isNegative = false

variable {x y : Binary64}

theorem isAmount_zero : IsAmount zero := ⟨rfl, rfl⟩

theorem isAmount_infinite : IsAmount (infinite false) := ⟨rfl, rfl⟩

theorem isAmount_finite (mantissa : Nat) (exponent : Int) :
    IsAmount (finite false mantissa exponent) :=
  ⟨rfl, rfl⟩

theorem IsAmount.cases (hx : x.IsAmount) :
    x = infinite false ∨ ∃ mantissa exponent, x = finite false mantissa exponent := by
  obtain ⟨hsome, hsign⟩ := hx
  cases x with
  | nan => cases hsome
  | infinite negative => exact .inl (congrArg infinite hsign)
  | finite negative mantissa exponent =>
      exact .inr ⟨mantissa, exponent, congrArg (finite · mantissa exponent) hsign⟩

theorem isAmount_normalized (mantissa : Nat) (exponent : Int) :
    IsAmount (normalized false mantissa exponent) := by
  unfold normalized
  dsimp only
  generalize (if mantissa = twoTo precision then (twoTo (precision - 1), exponent + 1)
    else (mantissa, exponent)) = carried
  split
  · exact isAmount_infinite
  · exact isAmount_finite ..

theorem isAmount_ofRatio (num den : Nat) : IsAmount (ofRatio false num den) := by
  by_cases hzero : num = 0
  · rw [ofRatio.eq_def, if_pos hzero]
    exact isAmount_finite ..
  · obtain ⟨⟨top, bottom⟩, hscaled⟩ : ∃ scaled,
        scaledQuotient num den (exponentFor num den) = scaled := ⟨_, rfl⟩
    rw [ofRatio_of_scaled false hzero rfl hscaled]
    exact isAmount_normalized ..

theorem isAmount_ofIntRatio {num : Int} (hnum : 0 ≤ num) (den : Nat) :
    IsAmount (ofIntRatio num den) := by
  have hsign : decide (num < 0) = false := decide_eq_false (not_lt.mpr hnum)
  rw [ofIntRatio, hsign]
  exact isAmount_ofRatio ..

theorem units_finite_nonneg (mantissa : Nat) (exponent : Int) :
    0 ≤ (finite false mantissa exponent).units := by
  rw [units_finite, if_neg Bool.false_ne_true]
  exact Int.natCast_nonneg _

theorem IsAmount.add (hx : x.IsAmount) (hy : y.IsAmount) : (x.add y).IsAmount := by
  rcases hx.cases with rfl | ⟨m, e, rfl⟩
  · rcases hy.cases with rfl | ⟨n, f, rfl⟩
    · exact isAmount_infinite
    · exact isAmount_infinite
  · rcases hy.cases with rfl | ⟨n, f, rfl⟩
    · exact isAmount_infinite
    · have hm := units_finite_nonneg m e
      have hn := units_finite_nonneg n f
      simp only [Binary64.add]
      split
      · exact isAmount_finite ..
      · exact isAmount_ofIntRatio (Int.add_nonneg hm hn) _

/-- Infinity times zero would be not-a-number. -/
theorem IsAmount.mul (hx : x.IsAmount) (hy : y.IsAmount) (hfinite : y.isFinite = true)
    (hzero : y.isZero = false) : (x.mul y).IsAmount := by
  rcases hy.cases with rfl | ⟨n, f, rfl⟩
  · cases hfinite
  · rcases hx.cases with rfl | ⟨m, e, rfl⟩
    · simp only [Binary64.mul, hzero, Bool.false_eq_true, if_false]
      exact isAmount_infinite
    · simp only [Binary64.mul, bne_self_eq_false]
      exact isAmount_ofRatio ..

end Binary64

namespace Text

open Binary64

theorem isAmount_ofDecimal (digits : List Char) (exponent : Int) :
    IsAmount (ofDecimal false digits exponent) := by
  unfold ofDecimal
  dsimp only
  split_ifs
  · exact isAmount_finite ..
  · exact isAmount_infinite
  · exact isAmount_ofRatio ..
  · exact isAmount_ofRatio ..

end Text

end RequestBreakdown
