import Mathlib.Data.Nat.Log
import Mathlib.Tactic.Ring
import RequestBreakdown.Number

/-!
# Whole numbers in binary64

A whole number below `2 ^ 53` is a binary64 number and comes back unchanged.  A greater
one is rounded, to no more than its double, and as long as it stays far from the
largest binary64 number, nothing that is made of it is infinite.
-/

namespace RequestBreakdown

theorem twoTo_eq (n : Nat) : twoTo n = 2 ^ n := rfl

theorem roundQuotient_one (n : Nat) : roundQuotient n 1 = n := by
  simp [roundQuotient, Nat.mod_one]

theorem roundQuotient_le (num den : Nat) : roundQuotient num den ≤ num / den + 1 := by
  unfold roundQuotient
  dsimp only
  split
  · omega
  · split <;> omega

namespace Binary64

/-! ## Quotients that are finite -/

theorem exponentFor_le {num den bits : Nat} (hbits : num.log2 ≤ bits + 52) :
    exponentFor num den ≤ bits := by
  unfold exponentFor
  dsimp only
  apply max_le
  · split <;> omega
  · unfold minExponent
    omega

theorem normalized_of_lt {negative : Bool} {mantissa : Nat} {exponent : Int}
    (hlt : exponent < maxExponent) :
    normalized negative mantissa exponent =
      if mantissa = twoTo 53 then .finite negative (twoTo 52) (exponent + 1)
      else .finite negative mantissa exponent := by
  have hfits : ¬ maxExponent < exponent := by omega
  have hfits' : ¬ maxExponent < exponent + 1 := by omega
  unfold normalized precision
  by_cases hcarried : mantissa = twoTo 53
  · simp only [if_pos hcarried, if_neg hfits']
  · simp only [if_neg hcarried, if_neg hfits]

theorem ofRatio_of_scaled {num den top bottom : Nat} {exponent : Int} (negative : Bool)
    (hnum : num ≠ 0) (hexponent : exponentFor num den = exponent)
    (hscaled : scaledQuotient num den exponent = (top, bottom)) :
    ofRatio negative num den = normalized negative (roundQuotient top bottom) exponent := by
  rw [ofRatio.eq_def, if_neg hnum, hexponent]
  simp only [hscaled]

theorem isFinite_ofRatio {num : Nat} (negative : Bool) (den : Nat) (hnum : num.log2 ≤ 1022) :
    (ofRatio negative num den).isFinite = true := by
  by_cases hzero : num = 0
  · rw [ofRatio.eq_def, if_pos hzero]
    rfl
  · obtain ⟨exponent, hexponent⟩ : ∃ exponent, exponentFor num den = exponent := ⟨_, rfl⟩
    obtain ⟨⟨top, bottom⟩, hscaled⟩ : ∃ scaled, scaledQuotient num den exponent = scaled :=
      ⟨_, rfl⟩
    have hle : exponentFor num den ≤ (970 : Nat) := exponentFor_le (by omega)
    have hlt : exponent < maxExponent := by
      unfold maxExponent
      omega
    rw [ofRatio_of_scaled negative hzero hexponent hscaled, normalized_of_lt hlt]
    split <;> rfl

/-! ## Whole numbers -/

theorem unitsPerOne_pos : 0 < unitsPerOne := twoTo_pos 1074

theorem unitsPerOne_eq : unitsPerOne = 2 ^ (-minExponent).toNat := by
  have hunits : (1074 : Nat) = (-minExponent).toNat := by decide
  rw [unitsPerOne, hunits, twoTo_eq]

theorem units_finite (negative : Bool) (mantissa : Nat) (exponent : Int) :
    (finite negative mantissa exponent).units =
      if negative then -((mantissa * 2 ^ (exponent - minExponent).toNat : Nat) : Int)
      else ((mantissa * 2 ^ (exponent - minExponent).toNat : Nat) : Int) :=
  rfl

theorem natAbs_units_finite (negative : Bool) (mantissa : Nat) (exponent : Int) :
    (finite negative mantissa exponent).units.natAbs =
      mantissa * 2 ^ (exponent - minExponent).toNat := by
  rw [units_finite]
  split
  · rw [Int.natAbs_neg, Int.natAbs_natCast]
  · rw [Int.natAbs_natCast]

/-- A mantissa that is carried to the next exponent has the same value there. -/
theorem natAbs_units_normalized {negative : Bool} {mantissa : Nat} {exponent : Int}
    (hlow : minExponent ≤ exponent) (hlt : exponent < maxExponent) :
    (normalized negative mantissa exponent).units.natAbs =
      mantissa * 2 ^ (exponent - minExponent).toNat := by
  rw [normalized_of_lt hlt]
  split
  · rename_i hcarried
    have hnext : (exponent + 1 - minExponent).toNat = (exponent - minExponent).toNat + 1 := by
      omega
    rw [natAbs_units_finite, hnext, hcarried, twoTo_eq, twoTo_eq, Nat.pow_succ]
    ring
  · exact natAbs_units_finite ..

theorem exponentFor_one {n : Nat} (hn : n ≠ 0) : exponentFor n 1 = (n.log2 : Int) - 52 := by
  have hlog : Nat.log2 1 = 0 := by decide
  have hself : 2 ^ n.log2 ≤ n := Nat.log2_self_le hn
  have henough : ¬ (scaledQuotient n 1 ((n.log2 : Int) - 52)).1 <
      (scaledQuotient n 1 ((n.log2 : Int) - 52)).2 * twoTo 52 := by
    unfold scaledQuotient
    rw [not_lt]
    split
    · have hsum : ((n.log2 : Int) - 52).toNat + 52 = n.log2 := by omega
      calc 1 * twoTo ((n.log2 : Int) - 52).toNat * twoTo 52
          = 2 ^ n.log2 := by rw [twoTo_eq, twoTo_eq, Nat.one_mul, ← Nat.pow_add, hsum]
        _ ≤ n := hself
    · have hsum : 52 = n.log2 + (-((n.log2 : Int) - 52)).toNat := by omega
      calc 1 * twoTo 52
          = 2 ^ n.log2 * 2 ^ (-((n.log2 : Int) - 52)).toNat := by
            rw [Nat.one_mul, twoTo_eq, ← Nat.pow_add, ← hsum]
        _ ≤ n * twoTo (-((n.log2 : Int) - 52)).toNat := Nat.mul_le_mul_right _ hself
  unfold exponentFor
  rw [hlog]
  simp only [Nat.cast_zero, sub_zero, if_neg henough]
  apply max_eq_left
  unfold minExponent
  omega

/-- A whole number that has no more bits than a mantissa is kept as it is. -/
theorem exists_ofRatio_of_lt {n : Nat} (negative : Bool) (hlt : n < 2 ^ 53) :
    ∃ mantissa exponent, ofRatio negative n 1 = .finite negative mantissa exponent ∧
      mantissa * 2 ^ (exponent - minExponent).toNat = n * unitsPerOne := by
  by_cases hzero : n = 0
  · subst hzero
    exact ⟨0, minExponent, rfl, by simp⟩
  · have hlog : n.log2 < 53 := (Nat.log2_lt hzero).mpr hlt
    have hbits : n < 2 ^ (n.log2 + 1) := Nat.lt_log2_self
    have hscaled : scaledQuotient n 1 ((n.log2 : Int) - 52) = (n * 2 ^ (52 - n.log2), 1) := by
      unfold scaledQuotient
      split
      · have hfull : n.log2 = 52 := by omega
        simp [hfull, twoTo_eq]
      · have hshift : (-((n.log2 : Int) - 52)).toNat = 52 - n.log2 := by omega
        rw [hshift, twoTo_eq]
    have hmantissa : n * 2 ^ (52 - n.log2) ≠ twoTo 53 := by
      have hsum : n.log2 + 1 + (52 - n.log2) = 53 := by omega
      apply Nat.ne_of_lt
      calc n * 2 ^ (52 - n.log2)
          < 2 ^ (n.log2 + 1) * 2 ^ (52 - n.log2) :=
            Nat.mul_lt_mul_of_pos_right hbits (Nat.two_pow_pos _)
        _ = twoTo 53 := by rw [← Nat.pow_add, hsum, twoTo_eq]
    have hfits : (n.log2 : Int) - 52 < maxExponent := by
      unfold maxExponent
      omega
    refine ⟨n * 2 ^ (52 - n.log2), (n.log2 : Int) - 52, ?_, ?_⟩
    · rw [ofRatio_of_scaled negative hzero (exponentFor_one hzero) hscaled, roundQuotient_one,
        normalized_of_lt hfits, if_neg hmantissa]
    · have hsum : 52 - n.log2 + ((n.log2 : Int) - 52 - minExponent).toNat =
          (-minExponent).toNat := by
        unfold minExponent
        omega
      rw [Nat.mul_assoc, ← Nat.pow_add, hsum, ← unitsPerOne_eq]

theorem natAbs_units_ofRatio_le {n : Nat} (negative : Bool) (hlog : n.log2 ≤ 1022) :
    (ofRatio negative n 1).units.natAbs ≤ 2 * n * unitsPerOne := by
  by_cases hlt : n < 2 ^ 53
  · obtain ⟨mantissa, exponent, hofRatio, hvalue⟩ := exists_ofRatio_of_lt negative hlt
    rw [hofRatio, natAbs_units_finite, hvalue]
    exact Nat.mul_le_mul_right _ (by omega)
  · have hsome : n ≠ 0 := by
      rintro rfl
      exact hlt (Nat.two_pow_pos 53)
    have hself : 2 ^ n.log2 ≤ n := Nat.log2_self_le hsome
    have hlong : 52 ≤ n.log2 := by
      by_contra hshort
      exact hlt ((Nat.log2_lt hsome).mp (by omega))
    obtain ⟨shift, hshift⟩ := Nat.exists_eq_add_of_le hlong
    have hexponent : exponentFor n 1 = shift := by
      rw [exponentFor_one hsome]
      omega
    have hscaled : scaledQuotient n 1 shift = (n, 2 ^ shift) := by
      unfold scaledQuotient
      rw [if_pos (Int.natCast_nonneg shift), Int.toNat_natCast, Nat.one_mul, twoTo_eq]
    have hlow : minExponent ≤ shift := by
      unfold minExponent
      omega
    have hfits : (shift : Int) < maxExponent := by
      unfold maxExponent
      omega
    have hunits : ((shift : Int) - minExponent).toNat = shift + (-minExponent).toNat := by
      unfold minExponent
      omega
    have hstep : 2 ^ shift ≤ n := by
      apply Nat.le_trans _ hself
      exact Nat.pow_le_pow_right Nat.two_pos (by omega)
    rw [ofRatio_of_scaled negative hsome hexponent hscaled, natAbs_units_normalized hlow hfits,
      hunits, Nat.pow_add, ← Nat.mul_assoc, ← unitsPerOne_eq]
    apply Nat.mul_le_mul_right
    calc roundQuotient n (2 ^ shift) * 2 ^ shift
        ≤ (n / 2 ^ shift + 1) * 2 ^ shift := Nat.mul_le_mul_right _ (roundQuotient_le _ _)
      _ = n / 2 ^ shift * 2 ^ shift + 2 ^ shift := by rw [Nat.add_mul, Nat.one_mul]
      _ ≤ n + n := Nat.add_le_add (Nat.div_mul_le_self _ _) hstep
      _ = 2 * n := by omega

/-! ## Integers -/

theorem truncate?_of_isFinite {x : Binary64} (hfinite : x.isFinite = true) :
    x.truncate? = some (x.units.tdiv unitsPerOne) := by
  cases x with
  | finite negative mantissa exponent => rfl
  | nan => cases hfinite
  | infinite negative => cases hfinite

theorem isFinite_ofInt {i : Int} (hlog : i.natAbs.log2 ≤ 1022) : (ofInt i).isFinite = true :=
  isFinite_ofRatio _ 1 hlog

theorem units_ofInt {i : Int} (hlt : i.natAbs < 2 ^ 53) :
    (ofInt i).units = i * unitsPerOne := by
  obtain ⟨mantissa, exponent, hofRatio, hvalue⟩ :=
    exists_ofRatio_of_lt (decide (i < 0)) hlt
  unfold ofInt
  rw [hofRatio, units_finite, hvalue, Int.natCast_mul]
  by_cases hneg : i < 0
  · have hsign : (i.natAbs : Int) = -i := by omega
    rw [if_pos (decide_eq_true hneg), hsign, Int.neg_mul, Int.neg_neg]
  · have hsign : (i.natAbs : Int) = i := by omega
    rw [decide_eq_false hneg, if_neg Bool.false_ne_true, hsign]

theorem log2_le_of_lt {n bits : Nat} (hlt : n < 2 ^ (bits + 1)) : n.log2 ≤ bits := by
  by_cases hzero : n = 0
  · rw [hzero, Nat.log2_zero]
    exact Nat.zero_le bits
  · exact Nat.lt_succ_iff.mp ((Nat.log2_lt hzero).mpr hlt)

theorem truncate?_ofInt {i : Int} (hlt : i.natAbs < 2 ^ 53) : (ofInt i).truncate? = some i := by
  have hlog : i.natAbs.log2 ≤ 52 := log2_le_of_lt hlt
  have hunits : (unitsPerOne : Int) ≠ 0 := Int.natCast_ne_zero.mpr unitsPerOne_pos.ne'
  rw [truncate?_of_isFinite (isFinite_ofInt (by omega)), units_ofInt hlt,
    Int.mul_tdiv_cancel _ hunits]

theorem exists_truncate?_ofInt {i : Int} (hlog : i.natAbs.log2 ≤ 1022) :
    ∃ j, (ofInt i).truncate? = some j ∧ j.natAbs ≤ 2 * i.natAbs := by
  refine ⟨_, truncate?_of_isFinite (isFinite_ofInt hlog), ?_⟩
  have hunits : (ofInt i).units.natAbs ≤ 2 * i.natAbs * unitsPerOne :=
    natAbs_units_ofRatio_le _ hlog
  rw [Int.natAbs_tdiv, Int.natAbs_natCast]
  exact Nat.div_le_of_le_mul (by rwa [Nat.mul_comm])

end Binary64

end RequestBreakdown
