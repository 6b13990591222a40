import Mathlib
import RequestBreakdown.Number
import RequestBreakdown.Proofs.Value.WholeNumbers

/-!
# The order of numbers

Integers and binary64 numbers lie on one line, between the two infinities.
Comparing two numbers compares where they lie; not-a-number lies nowhere, and
compares to nothing.
-/

namespace RequestBreakdown

/-- Where a number lies, in units of the smallest positive binary64 number. -/
abbrev Position := WithBot (WithTop Int)

namespace Position

def ofUnits (units : Int) : Position := ((units : WithTop Int) : Position)

theorem strictMono_ofUnits : StrictMono ofUnits := fun _ _ hlt =>
  WithBot.coe_lt_coe.mpr (WithTop.coe_lt_coe.mpr hlt)

theorem cmp_ofUnits (i j : Int) : cmp (ofUnits i) (ofUnits j) = compare i j := by
  rw [strictMono_ofUnits.cmp_map_eq, cmp_eq_compare]

theorem bot_lt_ofUnits (i : Int) : ⊥ < ofUnits i := WithBot.bot_lt_coe _

theorem ofUnits_lt_top (i : Int) : ofUnits i < ⊤ :=
  WithBot.coe_lt_coe.mpr (WithTop.coe_lt_top i)

theorem bot_lt_top : (⊥ : Position) < ⊤ := (bot_lt_ofUnits 0).trans (ofUnits_lt_top 0)

end Position

namespace Binary64

def position? : Binary64 → Option Position
  | .nan => none
  | .infinite negative => some (if negative then ⊥ else ⊤)
  | x@(.finite ..) => some (.ofUnits x.units)

theorem compare?_eq_cmp (x y : Binary64) :
    x.compare? y = Option.map₂ cmp x.position? y.position? := by
  have hbelow (i : Int) : cmp ⊥ (Position.ofUnits i) = .lt :=
    (cmp_eq_lt_iff _ _).mpr (Position.bot_lt_ofUnits i)
  have habove (i : Int) : cmp ⊤ (Position.ofUnits i) = .gt :=
    (cmp_eq_gt_iff _ _).mpr (Position.ofUnits_lt_top i)
  have hbelow' (i : Int) : cmp (Position.ofUnits i) ⊥ = .gt :=
    (cmp_eq_gt_iff _ _).mpr (Position.bot_lt_ofUnits i)
  have habove' (i : Int) : cmp (Position.ofUnits i) ⊤ = .lt :=
    (cmp_eq_lt_iff _ _).mpr (Position.ofUnits_lt_top i)
  have hends : cmp (⊥ : Position) ⊤ = .lt := (cmp_eq_lt_iff _ _).mpr Position.bot_lt_top
  have hends' : cmp (⊤ : Position) ⊥ = .gt := (cmp_eq_gt_iff _ _).mpr Position.bot_lt_top
  cases x with
  | nan => rfl
  | infinite negative =>
      cases y with
      | nan => rfl
      | infinite other =>
          cases negative with
          | true =>
              cases other with
              | true => exact congrArg some (cmp_self_eq_eq _).symm
              | false => exact congrArg some hends.symm
          | false =>
              cases other with
              | true => exact congrArg some hends'.symm
              | false => exact congrArg some (cmp_self_eq_eq _).symm
      | finite other mantissa exponent =>
          cases negative with
          | true => exact congrArg some (hbelow _).symm
          | false => exact congrArg some (habove _).symm
  | finite negative mantissa exponent =>
      cases y with
      | nan => rfl
      | infinite other =>
          cases other with
          | true => exact congrArg some (hbelow' _).symm
          | false => exact congrArg some (habove' _).symm
      | finite other mantissa' exponent' =>
          exact congrArg some (Position.cmp_ofUnits _ _).symm

end Binary64

namespace Number

def position? (n : Number) : Option Position :=
  match n.counted with
  | .int i => some (.ofUnits (i * Binary64.unitsPerOne))
  | .real x => x.position?
  | .flag _ => none

/-- An integer lies where the binary64 number would that has its value. -/
theorem compareIntReal?_eq_cmp (i : Int) (x : Binary64) :
    compare?.compareIntReal? i x =
      x.position?.map (cmp (Position.ofUnits (i * Binary64.unitsPerOne))) := by
  cases x with
  | nan => rfl
  | infinite negative =>
      cases negative with
      | true =>
          have hgt : cmp (Position.ofUnits (i * Binary64.unitsPerOne)) ⊥ = .gt :=
            (cmp_eq_gt_iff _ _).mpr (Position.bot_lt_ofUnits _)
          exact congrArg some hgt.symm
      | false =>
          have hlt : cmp (Position.ofUnits (i * Binary64.unitsPerOne)) ⊤ = .lt :=
            (cmp_eq_lt_iff _ _).mpr (Position.ofUnits_lt_top _)
          exact congrArg some hlt.symm
  | finite negative mantissa exponent =>
      exact congrArg some (Position.cmp_ofUnits _ _).symm

theorem unitsPerOne_pos : (0 : Int) < Binary64.unitsPerOne :=
  Int.natCast_pos.mpr Binary64.unitsPerOne_pos

theorem strictMono_position :
    StrictMono fun i : Int => Position.ofUnits (i * Binary64.unitsPerOne) :=
  Position.strictMono_ofUnits.comp fun _ _ hlt => Int.mul_lt_mul_of_pos_right hlt unitsPerOne_pos

theorem compare?_eq_cmp (a b : Number) :
    a.compare? b = Option.map₂ cmp a.position? b.position? := by
  have hcounted (n : Number) (b : Bool) : n.counted ≠ .flag b := by
    cases n <;> simp [counted]
  unfold compare? position?
  cases ha : a.counted with
  | flag b => exact absurd ha (hcounted a b)
  | int i =>
      cases hb : b.counted with
      | flag b' => exact absurd hb (hcounted b b')
      | int j =>
          have hcmp := strictMono_position.cmp_map_eq i j
          exact congrArg some (hcmp.trans (cmp_eq_compare i j)).symm
      | real y =>
          simp only [compareIntReal?_eq_cmp]
          cases y.position? <;> rfl
  | real x =>
      cases hb : b.counted with
      | flag b' => exact absurd hb (hcounted b b')
      | int j =>
          simp only [compareIntReal?_eq_cmp]
          cases x.position? with
          | none => rfl
          | some p => exact congrArg some (cmp_swap _ _)
      | real y => exact Binary64.compare?_eq_cmp x y

section Order

variable {a b c : Number}

theorem lt_iff : a.lt b = true ↔
    ∃ p q, a.position? = some p ∧ b.position? = some q ∧ p < q := by
  unfold lt
  rw [beq_iff_eq, compare?_eq_cmp]
  simp [Option.map₂_eq_some_iff, cmp_eq_lt_iff]

theorem eqv_iff : a.eqv b = true ↔
    ∃ p, a.position? = some p ∧ b.position? = some p := by
  unfold eqv
  rw [beq_iff_eq, compare?_eq_cmp]
  simp [Option.map₂_eq_some_iff, cmp_eq_eq_iff]

theorem le_iff : a.le b = true ↔
    ∃ p q, a.position? = some p ∧ b.position? = some q ∧ p ≤ q := by
  unfold le
  rw [Bool.or_eq_true, lt_iff]
  change _ ∨ a.eqv b = true ↔ _
  rw [eqv_iff]
  constructor
  · rintro (⟨p, q, ha, hb, hlt⟩ | ⟨p, ha, hb⟩)
    · exact ⟨p, q, ha, hb, hlt.le⟩
    · exact ⟨p, p, ha, hb, le_rfl⟩
  · rintro ⟨p, q, ha, hb, hle⟩
    rcases hle.lt_or_eq with hlt | rfl
    · exact .inl ⟨p, q, ha, hb, hlt⟩
    · exact .inr ⟨p, ha, hb⟩

theorem le_trans (hab : a.le b = true) (hbc : b.le c = true) : a.le c = true := by
  rw [le_iff] at hab hbc ⊢
  obtain ⟨p, q, ha, hb, hpq⟩ := hab
  obtain ⟨q', r, hb', hc, hqr⟩ := hbc
  obtain rfl : q = q' := Option.some.inj (hb.symm.trans hb')
  exact ⟨p, r, ha, hc, hpq.trans hqr⟩

theorem position?_eq_none_iff : a.position? = none ↔ a = .real .nan := by
  cases a with
  | flag b => exact ⟨nofun, nofun⟩
  | int i => exact ⟨nofun, nofun⟩
  | real x =>
      cases x with
      | nan => exact ⟨fun _ => rfl, fun _ => rfl⟩
      | infinite negative => exact ⟨nofun, nofun⟩
      | finite negative mantissa exponent => exact ⟨nofun, nofun⟩

/-- Of two numbers that are none of them not-a-number one is less or they are in order. -/
theorem lt_of_not_le (hnot : a.le b = false) (ha : a ≠ .real .nan) (hb : b ≠ .real .nan) :
    b.lt a = true := by
  obtain ⟨p, hp⟩ := Option.ne_none_iff_exists'.mp (mt position?_eq_none_iff.mp ha)
  obtain ⟨q, hq⟩ := Option.ne_none_iff_exists'.mp (mt position?_eq_none_iff.mp hb)
  rw [lt_iff]
  refine ⟨q, p, hq, hp, ?_⟩
  by_contra hge
  have hle : a.le b = true := le_iff.mpr ⟨p, q, hp, hq, not_lt.mp hge⟩
  rw [hnot] at hle
  cases hle

end Order

end Number

end RequestBreakdown
