import RequestBreakdown.Proofs.Value.NumberOrder
import RequestBreakdown.Value.Use

/-!
# Values that are counts

A whole number that binary64 holds is read as a count without a loss, whatever kind
of number it is, and so is an absent value, which counts nothing.  The count of an
integer beyond that may be off, but there is one.
-/

namespace RequestBreakdown

/-- The value counts so many: it is a whole number, or it is absent and there are none. -/
def Value.IsCount (value : Value) (n : Nat) : Prop :=
  n < 2 ^ 53 ∧
    (((value = .null ∨ value = .text "") ∧ n = 0) ∨
      ∃ m, value.number? = some m ∧ m.eqv (.int n) = true)

namespace Number

theorem eqv_int_iff {m : Number} {i : Int} :
    m.eqv (.int i) = true ↔
      m.position? = some (.ofUnits (i * Binary64.unitsPerOne)) := by
  rw [eqv_iff]
  constructor
  · rintro ⟨p, hm, hi⟩
    rw [hm, ← hi]
    rfl
  · intro hm
    exact ⟨_, hm, rfl⟩

theorem int_eqv_int_iff {i j : Int} : (Number.int i).eqv (.int j) = true ↔ i = j := by
  rw [eqv_int_iff]
  change some _ = some _ ↔ _
  rw [Option.some.injEq]
  exact strictMono_position.injective.eq_iff

theorem truncate_real {x : Binary64} {i : Int} (hleft : x.truncate? = some i) :
    (Number.real x).truncate = .ok i := by
  change integerOf x x.truncate? = .ok i
  rw [hleft]
  rfl

theorem toBinary64_int {i : Int} (hlog : i.natAbs.log2 ≤ 1022) :
    (Number.int i).toBinary64 = .ok (Binary64.ofInt i) :=
  if_pos (Binary64.isFinite_ofInt hlog)

/-- A binary64 number that equals an integer leaves it when the fraction is dropped. -/
theorem truncate_of_eqv {x : Binary64} {i : Int}
    (heqv : (Number.real x).eqv (.int i) = true) : (Number.real x).truncate = .ok i := by
  rw [eqv_int_iff] at heqv
  change x.position? = _ at heqv
  unfold Binary64.position? at heqv
  cases x with
  | nan => cases heqv
  | infinite negative =>
      have hat := Option.some.inj heqv
      have hbot := Position.bot_lt_ofUnits (i * Binary64.unitsPerOne)
      have htop := Position.ofUnits_lt_top (i * Binary64.unitsPerOne)
      cases negative with
      | true => exact absurd hat hbot.ne
      | false => exact absurd hat htop.ne'
  | finite negative mantissa exponent =>
      have hunits : (Binary64.finite negative mantissa exponent).units =
          i * Binary64.unitsPerOne :=
        Position.strictMono_ofUnits.injective (Option.some.inj heqv)
      have hone : (Binary64.unitsPerOne : Int) ≠ 0 := unitsPerOne_pos.ne'
      apply truncate_real
      change some (Int.tdiv _ _) = _
      rw [hunits, Int.mul_tdiv_cancel _ hone]

end Number

namespace Value

theorem toCount_of_number {value : Value} {m : Number} (hnumber : value.number? = some m) :
    value.toCount = m.toBinary64 >>= fun x => (Number.real x).truncate := by
  cases value with
  | flag b | int i | real x =>
      obtain rfl := Option.some.inj hnumber
      rfl
  | _ => cases hnumber

theorem toCount_of_isCount {value : Value} {n : Nat} (hcount : value.IsCount n) :
    value.toCount = .ok n := by
  obtain ⟨hlt, ⟨habsent, rfl⟩ | ⟨m, hnumber, heqv⟩⟩ := hcount
  · rcases habsent with rfl | rfl <;> rfl
  · have hbound : (n : Int).natAbs < 2 ^ 53 := hlt
    have hlog : (n : Int).natAbs.log2 ≤ 52 := Binary64.log2_le_of_lt hbound
    rw [toCount_of_number hnumber]
    cases m with
    | flag b =>
        have hsame : Number.ofFlag b = n := Number.int_eqv_int_iff.mp heqv
        change (Number.real (Binary64.ofInt (Number.ofFlag b))).truncate = _
        rw [hsame]
        exact Number.truncate_real (Binary64.truncate?_ofInt hbound)
    | int i =>
        obtain rfl := Number.int_eqv_int_iff.mp heqv
        rw [Number.toBinary64_int (by omega)]
        exact Number.truncate_real (Binary64.truncate?_ofInt hbound)
    | real x => exact Number.truncate_of_eqv heqv

theorem isCount_int {n : Nat} (hlt : n < 2 ^ 53) : (Value.int n).IsCount n :=
  ⟨hlt, .inr ⟨.int n, rfl, Number.int_eqv_int_iff.mpr rfl⟩⟩

theorem isCount_null : Value.null.IsCount 0 := ⟨Nat.two_pow_pos 53, .inl ⟨.inl rfl, rfl⟩⟩

/-- An integer has a count unless it comes near to the largest binary64 number. -/
theorem exists_toCount_int {i : Int} (hlog : i.natAbs.log2 ≤ 1022) :
    ∃ j, (Value.int i).toCount = .ok j ∧ j.natAbs ≤ 2 * i.natAbs := by
  obtain ⟨j, hj, hle⟩ := Binary64.exists_truncate?_ofInt hlog
  refine ⟨j, ?_, hle⟩
  rw [toCount_of_number rfl, Number.toBinary64_int hlog]
  exact Number.truncate_real hj

end Value

end RequestBreakdown
