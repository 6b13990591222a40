import Mathlib.Tactic.Linarith
import RequestBreakdown.Proofs.Value.WholeNumbers

/-!
# Quotients in binary64

Rounding to a multiple of a power of two does not lead across any of these multiples.
A quotient that is not large has bits to spare behind the point, so in binary64 it stays
on the side of each point of a fixed grid on which it was before.
-/

namespace RequestBreakdown

section RoundQuotient

variable {num den k : Nat}

theorem div_le_roundQuotient (num den : Nat) : num / den ≤ roundQuotient num den := by
  unfold roundQuotient
  dsimp only
  split
  · exact le_rfl
  · split
    · exact Nat.le_succ _
    · exact Nat.le_add_right _ _

theorem le_roundQuotient (hden : 0 < den) (hle : k * den ≤ num) : k ≤ roundQuotient num den :=
  ((Nat.le_div_iff_mul_le hden).mpr hle).trans (div_le_roundQuotient num den)

theorem roundQuotient_le_of_le (hden : 0 < den) (hle : num ≤ k * den) :
    roundQuotient num den ≤ k := by
  rcases hle.lt_or_eq with hlt | rfl
  · exact (roundQuotient_le num den).trans ((Nat.div_lt_iff_lt_mul hden).mpr hlt)
  · simp [roundQuotient, hden]

end RoundQuotient

namespace Binary64

/-- So many units lie on the side of each multiple of `2 ^ -grid` on which the quotient
lies. -/
structure KeepsSides (grid num den units : Nat) : Prop where
  above : ∀ k, k * den ≤ num * 2 ^ grid → k * unitsPerOne ≤ units * 2 ^ grid
  below : ∀ k, num * 2 ^ grid ≤ k * den → units * 2 ^ grid ≤ k * unitsPerOne

variable {num den bits grid : Nat}

theorem exponentFor_le_of_lt (hlt : num < 2 ^ bits * den) (hbits : bits + grid ≤ 52) :
    exponentFor num den ≤ -(grid : Int) := by
  have hlog : num.log2 ≤ bits + den.log2 := by
    apply log2_le_of_lt
    have hden : den < 2 ^ (den.log2 + 1) := Nat.lt_log2_self
    calc num < 2 ^ bits * den := hlt
      _ ≤ 2 ^ bits * 2 ^ (den.log2 + 1) := Nat.mul_le_mul_left _ hden.le
      _ = 2 ^ (bits + den.log2 + 1) := by rw [← Nat.pow_add, Nat.add_assoc]
  unfold exponentFor
  dsimp only
  apply max_le
  · split <;> omega
  · unfold minExponent
    omega

theorem minExponent_le_exponentFor (num den : Nat) : minExponent ≤ exponentFor num den :=
  le_max_right _ _

theorem keepsSides_roundQuotient {shift : Nat} (hden : 0 < den) (hcoarse : grid ≤ shift)
    (hfine : shift ≤ 1074) :
    KeepsSides grid num den (roundQuotient (num * 2 ^ shift) den * 2 ^ (1074 - shift)) := by
  obtain ⟨more, rfl⟩ := Nat.exists_eq_add_of_le hcoarse
  have hunits : unitsPerOne = 2 ^ more * 2 ^ (1074 - (grid + more)) * 2 ^ grid := by
    have hsum : 1074 = more + (1074 - (grid + more)) + grid := by omega
    rw [unitsPerOne, twoTo_eq, ← Nat.pow_add, ← Nat.pow_add, ← hsum]
  refine ⟨fun k hk => ?_, fun k hk => ?_⟩
  · have hround : k * 2 ^ more ≤ roundQuotient (num * 2 ^ (grid + more)) den := by
      apply le_roundQuotient hden
      calc k * 2 ^ more * den = k * den * 2 ^ more := Nat.mul_right_comm ..
        _ ≤ num * 2 ^ grid * 2 ^ more := Nat.mul_le_mul_right _ hk
        _ = num * 2 ^ (grid + more) := by rw [Nat.pow_add, Nat.mul_assoc]
    rw [hunits, ← Nat.mul_assoc, ← Nat.mul_assoc]
    exact Nat.mul_le_mul_right _ (Nat.mul_le_mul_right _ hround)
  · have hround : roundQuotient (num * 2 ^ (grid + more)) den ≤ k * 2 ^ more := by
      apply roundQuotient_le_of_le hden
      calc num * 2 ^ (grid + more) = num * 2 ^ grid * 2 ^ more := by
            rw [Nat.pow_add, Nat.mul_assoc]
        _ ≤ k * den * 2 ^ more := Nat.mul_le_mul_right _ hk
        _ = k * 2 ^ more * den := Nat.mul_right_comm ..
    rw [hunits, ← Nat.mul_assoc, ← Nat.mul_assoc]
    exact Nat.mul_le_mul_right _ (Nat.mul_le_mul_right _ hround)

theorem keepsSides_zero (grid : Nat) (hden : 0 < den) : KeepsSides grid 0 den 0 where
  above k hk := by
    have hzero : k = 0 := by simpa [hden.ne'] using hk
    rw [hzero, Nat.zero_mul]
    exact Nat.zero_le _
  below k _ := by
    rw [Nat.zero_mul]
    exact Nat.zero_le _

theorem exists_shift (hlt : num < 2 ^ bits * den) (hbits : bits + grid ≤ 52) :
    ∃ shift : Nat, exponentFor num den = -(shift : Int) ∧ grid ≤ shift ∧ shift ≤ 1074 := by
  have hhigh := exponentFor_le_of_lt hlt hbits
  have hlow := minExponent_le_exponentFor num den
  unfold minExponent at hlow
  exact ⟨(exponentFor num den).natAbs, by omega, by omega, by omega⟩

/-- The quotient with some bits behind the point. -/
theorem exists_ofRatio_of_shift {shift : Nat} (hzero : num ≠ 0)
    (hexponent : exponentFor num den = -(shift : Int)) (hsome : 0 < shift)
    (hfine : shift ≤ 1074) :
    ∃ mantissa exponent, ofRatio false num den = .finite false mantissa exponent ∧
      mantissa * 2 ^ (exponent - minExponent).toNat =
        roundQuotient (num * 2 ^ shift) den * 2 ^ (1074 - shift) := by
  have hlow : minExponent ≤ -(shift : Int) := by
    unfold minExponent
    omega
  have hfits : -(shift : Int) < maxExponent := by
    unfold maxExponent
    omega
  have hscaled : scaledQuotient num den (-(shift : Int)) = (num * 2 ^ shift, den) := by
    unfold scaledQuotient
    rw [if_neg (by omega), Int.neg_neg, Int.toNat_natCast, twoTo_eq]
  have hratio := ofRatio_of_scaled false hzero hexponent hscaled
  obtain ⟨mantissa, exponent, hfinite⟩ : ∃ mantissa exponent,
      ofRatio false num den = .finite false mantissa exponent := by
    rw [hratio, normalized_of_lt hfits]
    split
    · exact ⟨_, _, rfl⟩
    · exact ⟨_, _, rfl⟩
  have hshift : (-(shift : Int) - minExponent).toNat = 1074 - shift := by
    unfold minExponent
    omega
  refine ⟨mantissa, exponent, hfinite, ?_⟩
  rw [← natAbs_units_finite, ← hfinite, hratio, natAbs_units_normalized hlow hfits, hshift]

/-- A quotient that needs no more than so many bits in front of the point is finite, and
keeps the sides of a grid that needs no more than the other bits. -/
theorem exists_ofRatio_keepsSides (grid : Nat) (hgrid : 0 < grid)
    (hlt : num < 2 ^ bits * den) (hbits : bits + grid ≤ 52) :
    ∃ mantissa exponent, ofRatio false num den = .finite false mantissa exponent ∧
      KeepsSides grid num den (mantissa * 2 ^ (exponent - minExponent).toNat) := by
  have hden : 0 < den := Nat.pos_of_ne_zero fun hzero => by simp [hzero] at hlt
  by_cases hzero : num = 0
  · subst hzero
    refine ⟨0, minExponent, rfl, ?_⟩
    rw [Nat.zero_mul]
    exact keepsSides_zero grid hden
  · obtain ⟨shift, hexponent, hcoarse, hfine⟩ := exists_shift hlt hbits
    obtain ⟨mantissa, exponent, hfinite, hunits⟩ :=
      exists_ofRatio_of_shift hzero hexponent (by omega) hfine
    refine ⟨mantissa, exponent, hfinite, ?_⟩
    rw [hunits]
    exact keepsSides_roundQuotient hden hcoarse hfine

/-! ## The nearest integer, a half going up -/

def half : Binary64 := ofRatio false 1 2

theorem half_eq : half = .finite false (2 ^ 52) (-53) := by decide +kernel

/-- The greatest integer that is not above a finite number. -/
def floor? : Binary64 → Option Int
  | x@(.finite ..) => some (x.units / unitsPerOne)
  | _ => none

/-- As many units as make a half. -/
def unitsPerHalf : Nat := twoTo 1073

theorem two_mul_unitsPerHalf : 2 * unitsPerHalf = unitsPerOne := by
  have hdouble (n : Nat) : 2 * twoTo n = twoTo (n + 1) := by
    rw [twoTo_eq, twoTo_eq, Nat.pow_succ']
  rw [unitsPerHalf, unitsPerOne, hdouble]

theorem units_half : half.units = (unitsPerHalf : Int) := by
  have hshift : ((-53 : Int) - minExponent).toNat = 1021 := by decide
  have hpower (m n : Nat) : 2 ^ m * 2 ^ n = twoTo (m + n) := (Nat.pow_add ..).symm
  rw [half_eq, units_finite, if_neg Bool.false_ne_true, hshift]
  exact congrArg Int.ofNat (hpower 52 1021)

theorem add_half (mantissa : Nat) (exponent : Int) :
    (finite false mantissa exponent).add half =
      ofRatio false (mantissa * 2 ^ (exponent - minExponent).toNat + unitsPerHalf)
        unitsPerOne := by
  have hpositive : 0 < unitsPerHalf := twoTo_pos 1073
  have hhalf := units_half
  rw [half_eq] at hhalf ⊢
  simp only [Binary64.add, hhalf, units_finite, Bool.false_eq_true, if_false,
    ← Int.natCast_add]
  rw [if_neg (by omega), ofIntRatio, Int.natAbs_natCast, decide_eq_false (by omega)]

/-- A quotient is a half, or it is apart from each half by more than two points of the
grid; in neither case is a half added to it rounded across an integer. -/
theorem div_unitsPerOne_of_keepsSides {units total : Nat} (hpositive : 0 < den)
    (hden : den ≤ 2 ^ 20) (hquotient : KeepsSides 21 num den units)
    (hsum : KeepsSides 21 (units + unitsPerHalf) unitsPerOne total) :
    total / unitsPerOne = (2 * num + den) / (2 * den) := by
  have hone := two_mul_unitsPerHalf
  obtain ⟨nearest, hnearest⟩ : ∃ nearest, (2 * num + den) / (2 * den) = nearest := ⟨_, rfl⟩
  have hlow : nearest * (2 * den) ≤ 2 * num + den := hnearest ▸ Nat.div_mul_le_self ..
  have hhigh : 2 * num + den < 2 * den * (nearest + 1) :=
    hnearest ▸ Nat.lt_mul_div_succ _ (by omega)
  have hreached : nearest * unitsPerOne ≤ total := by
    have habove := hsum.above (nearest * 2 ^ 21)
    cases nearest with
    | zero => simp
    | succ n =>
        have hhalf := hquotient.above ((2 * n + 1) * 2 ^ 20) (by linarith)
        linarith [habove (by linarith)]
  have hnotPassed : total < (nearest + 1) * unitsPerOne := by
    obtain ⟨k, hk⟩ : ∃ k, k + 1 = (2 * nearest + 1) * 2 ^ 20 :=
      ⟨(2 * nearest + 1) * 2 ^ 20 - 1, by omega⟩
    have hproduct : k * den + den = (2 * nearest + 1) * 2 ^ 20 * den := by
      rw [← hk, Nat.add_mul, Nat.one_mul]
    have hunits : k * unitsPerOne + unitsPerOne =
        (2 * nearest + 1) * 2 ^ 20 * unitsPerOne := by
      rw [← hk, Nat.add_mul, Nat.one_mul]
    have hhalf := hquotient.below k (by linarith)
    have hbelow := hsum.below (k + 2 ^ 20) (by linarith)
    have hpositive := unitsPerOne_pos
    linarith
  rw [hnearest]
  exact Nat.div_eq_of_lt_le hreached hnotPassed

/-- Up to a million the quotient of two integers can be rounded in binary64, by adding a
half and leaving out the fraction. -/
theorem floor?_add_half (hpositive : 0 < den) (hden : den ≤ 2 ^ 20)
    (hlt : num < 2 ^ 20 * den) :
    ((ofRatio false num den).add half).floor? =
      some (((2 * num + den) / (2 * den) : Nat) : Int) := by
  obtain ⟨mantissa, exponent, hquotient, hsides⟩ :=
    exists_ofRatio_keepsSides 21 (by omega) hlt (by omega)
  rw [hquotient, add_half]
  generalize mantissa * 2 ^ (exponent - minExponent).toNat = units at hsides
  have hsmall : units + unitsPerHalf < 2 ^ 21 * unitsPerOne := by
    have hbelow := hsides.below (2 ^ 20 * 2 ^ 21) (by nlinarith)
    have hone := two_mul_unitsPerHalf
    have hunits := unitsPerOne_pos
    omega
  obtain ⟨mantissa', exponent', hsum, hsides'⟩ :=
    exists_ofRatio_keepsSides 21 (by omega) hsmall (by omega)
  have hfloor := div_unitsPerOne_of_keepsSides hpositive hden hsides hsides'
  rw [hsum, floor?, units_finite, if_neg Bool.false_ne_true, ← Int.natCast_div, hfloor]

end Binary64

end RequestBreakdown
