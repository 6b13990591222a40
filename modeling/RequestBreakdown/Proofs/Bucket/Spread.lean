import Mathlib.Algebra.Order.Round
import Mathlib.Data.Rat.Floor
import RequestBreakdown.Proofs.Bucket.Count
import RequestBreakdown.Proofs.Value.Quotients

/-!
# How the boundaries are spread

The positions of the boundaries are the integers nearest to even steps from the first
candidate to the last, so that two neighbours are a whole step apart, rounded down or up.
Reckoned in binary64 the positions are the same for any list of candidates that is not
longer than a million.
-/

namespace RequestBreakdown.Boundary

/-- Positions of so many candidates, of which the last one is given: each is the nearest
to an even step, a half going up. -/
structure IsEvenlySpread (last count : Nat) (position : Nat → Nat) : Prop where
  start : position 0 = 0
  finish : position (count - 1) = last
  increasing : ∀ i, i + 1 < count → position i < position (i + 1)
  nearest : ∀ i < count, (position i : Int) = round ((i * last : ℚ) / (count - 1 : Nat))
  step : ∀ i, i + 1 < count →
    (position (i + 1) - position i : Int) = ⌊(last : ℚ) / (count - 1 : Nat)⌋ ∨
      (position (i + 1) - position i : Int) = ⌈(last : ℚ) / (count - 1 : Nat)⌉

/-- A position as it is reckoned in binary64. -/
def reckonedPosition (last count i : Nat) : Except Fault (Option Int) :=
  ((Number.ofNat (i * last)).div (.ofNat (count - 1))).map fun quotient =>
    (quotient.add Binary64.half).floor?

variable {last count : Nat}

theorem evenPosition_zero (hcount : 2 ≤ count) : evenPosition last count 0 = 0 := by
  unfold evenPosition
  apply Nat.div_eq_of_lt
  omega

theorem evenPosition_eq_round (hcount : 2 ≤ count) (i : Nat) :
    (evenPosition last count i : Int) = round ((i * last : ℚ) / (count - 1 : Nat)) := by
  have hsteps : ((count - 1 : Nat) : ℚ) ≠ 0 := by
    have hpositive : count - 1 ≠ 0 := by omega
    exact_mod_cast hpositive
  have hquotient : (i * last : ℚ) / (count - 1 : Nat) + 1 / 2 =
      ((2 * i * last + (count - 1) : Nat) : ℚ) / (2 * (count - 1) : Nat) := by
    push_cast
    field_simp
  rw [round_eq, hquotient, Rat.floor_natCast_div_natCast]
  rfl

/-- Rounded down, a step makes the floor of a sum differ by its floor or its ceiling. -/
theorem floor_add_sub_floor (a step : ℚ) :
    ⌊a + step⌋ - ⌊a⌋ = ⌊step⌋ ∨ ⌊a + step⌋ - ⌊a⌋ = ⌈step⌉ := by
  have hleast : ⌊a⌋ + ⌊step⌋ ≤ ⌊a + step⌋ := Int.le_floor_add a step
  have hmost : ⌊a + step⌋ ≤ ⌊a⌋ + ⌈step⌉ := by
    rw [← Int.floor_add_intCast]
    exact Int.floor_le_floor (by gcongr; exact Int.le_ceil step)
  have hround : ⌈step⌉ ≤ ⌊step⌋ + 1 := Int.ceil_le_floor_add_one step
  omega

theorem evenPosition_step (hcount : 2 ≤ count) (i : Nat) :
    (evenPosition last count (i + 1) - evenPosition last count i : Int) =
        ⌊(last : ℚ) / (count - 1 : Nat)⌋ ∨
      (evenPosition last count (i + 1) - evenPosition last count i : Int) =
        ⌈(last : ℚ) / (count - 1 : Nat)⌉ := by
  have hnext : ((i + 1 : Nat) * last : ℚ) / (count - 1 : Nat) + 1 / 2 =
      (i * last : ℚ) / (count - 1 : Nat) + 1 / 2 + (last : ℚ) / (count - 1 : Nat) := by
    push_cast
    ring
  rw [evenPosition_eq_round hcount, evenPosition_eq_round hcount, round_eq, round_eq, hnext]
  exact floor_add_sub_floor ..

theorem isEvenlySpread_evenPosition (hcount : 2 ≤ count) (hlast : count ≤ last + 1) :
    IsEvenlySpread last count (evenPosition last count) where
  start := evenPosition_zero hcount
  finish := evenPosition_last hcount
  increasing i _ := evenPosition_succ hcount hlast i
  nearest i _ := evenPosition_eq_round hcount i
  step i _ := evenPosition_step hcount i

theorem reckonedPosition_eq {i : Nat} (hlast : count ≤ last + 1) (hshort : last < 2 ^ 20)
    (hi : i < count) (hcount : 2 ≤ count) :
    reckonedPosition last count i = .ok (some (evenPosition last count i)) := by
  have hpositive : 0 < count - 1 := by omega
  have hproduct : i * last < 2 ^ 20 * (count - 1) := by
    calc i * last ≤ (count - 1) * last := Nat.mul_le_mul_right _ (by omega)
      _ < (count - 1) * 2 ^ 20 := Nat.mul_lt_mul_of_pos_left hshort hpositive
      _ = 2 ^ 20 * (count - 1) := Nat.mul_comm ..
  have hfinite : (Binary64.ofRatio false (i * last) (count - 1)).isFinite = true := by
    have hlog : (i * last).log2 ≤ 40 := Binary64.log2_le_of_lt (by omega)
    exact Binary64.isFinite_ofRatio false _ (by omega)
  have hquotient : (Number.ofNat (i * last)).div (.ofNat (count - 1)) =
      .ok (Binary64.ofRatio false (i * last) (count - 1)) := by
    have hsign (n : Nat) : decide ((n : Int) < 0) = false := decide_eq_false (by omega)
    simp only [Number.ofNat, Number.div, Number.counted, hsign, Int.natAbs_natCast,
      bne_self_eq_false, hfinite, if_true]
    rw [if_neg (by omega)]
  have hfloor := Binary64.floor?_add_half hpositive (by omega) hproduct
  rw [← Nat.mul_assoc] at hfloor
  rw [reckonedPosition, hquotient, Except.map, hfloor]
  rfl

/-! ## The candidates at these positions -/

variable {α : Type} {candidates : List α} {count : Int}

theorem getElem?_select (hmany : 1 < count) (hless : count < candidates.length) {i : Nat}
    (hi : i < count.toNat) :
    (select candidates count)[i]? =
      candidates[evenPosition (candidates.length - 1) count.toNat i]? := by
  have hposition : ∀ j < count.toNat,
      evenPosition (candidates.length - 1) count.toNat j < candidates.length := by
    intro j hj
    have hle : evenPosition (candidates.length - 1) count.toNat j ≤ candidates.length - 1 :=
      evenPosition_le (by omega) (by omega) hj
    omega
  have hsome : 0 < candidates.length := by omega
  have hpicked : select candidates count = (List.range count.toNat).map fun j =>
      candidates[evenPosition (candidates.length - 1) count.toNat j]?.getD candidates[0] := by
    rw [select, if_neg (by omega), if_neg (by omega), List.filterMap_eq_map_iff_forall_eq_some]
    intro j hj
    rw [List.getElem?_eq_getElem (hposition j (List.mem_range.mp hj)), Option.getD_some]
  rw [hpicked, List.getElem?_map, List.getElem?_range hi, Option.map_some,
    List.getElem?_eq_getElem (hposition i hi), Option.getD_some]

theorem select?_eq (hsome : candidates ≠ []) (count : Int) :
    select? candidates count = .ok (select candidates count) := by
  have hnotEmpty : ¬ (candidates.isEmpty = true ∧ count < 0) := by
    simp [hsome]
  rw [select?, if_neg hnotEmpty]

/-- Of a list of candidates that is neither empty nor longer than a million, all are
chosen when no fewer are asked for, and the last one when no more than one is asked for.
Else there are as many as are asked for, at positions that rise from the first to the last
in even steps; each is the position that is reckoned in binary64.  In whatever order the
candidates are, those that are chosen are in it. -/
theorem select?_evenly (hsome : candidates ≠ []) (hshort : candidates.length < 2 ^ 20)
    (count : Int) :
    ∃ chosen, select? candidates count = .ok chosen ∧
      ((candidates.length : Int) ≤ count → chosen = candidates) ∧
      (count < candidates.length → count ≤ 1 → chosen = [candidates.getLast hsome]) ∧
      (count < candidates.length → 1 < count → chosen.length = count.toNat ∧
        ∃ position, IsEvenlySpread (candidates.length - 1) count.toNat position ∧
          ∀ i < count.toNat, chosen[i]? = candidates[position i]? ∧
            reckonedPosition (candidates.length - 1) count.toNat i =
              .ok (some (position i))) ∧
      ∀ InOrder : α → α → Prop, candidates.Pairwise InOrder → chosen.Pairwise InOrder := by
  refine ⟨select candidates count, select?_eq hsome count, ?_, ?_, ?_, ?_⟩
  · intro hall
    rw [select, if_pos hall]
  · intro hless hone
    rw [select, if_neg (by omega), if_pos hone, List.getLast?_eq_some_getLast hsome,
      Option.toList_some]
  · intro hless hmany
    have hlength := length_select hsome count
    refine ⟨by omega, evenPosition (candidates.length - 1) count.toNat,
      isEvenlySpread_evenPosition (by omega) (by omega), fun i hi => ⟨?_, ?_⟩⟩
    · exact getElem?_select hmany hless hi
    · exact reckonedPosition_eq (by omega) (by omega) hi (by omega)
  · intro InOrder hordered
    exact hordered.sublist (select_sublist candidates count)

theorem select?_evenly_durations :
    durationCandidates ≠ [] ∧ durationCandidates.length < 2 ^ 20 ∧
      ∃ chosen, select? durationCandidates 10 = .ok chosen ∧ chosen.length = 10 ∧
        chosen.Pairwise (· < ·) ∧
        ∃ position, IsEvenlySpread 27 10 position ∧ ∀ i < 10,
          chosen[i]? = durationCandidates[position i]? ∧
            reckonedPosition 27 10 i = .ok (some (position i)) := by
  have hsome : durationCandidates ≠ [] := List.cons_ne_nil _ _
  have hshort : durationCandidates.length < 2 ^ 20 := by decide
  obtain ⟨chosen, hchosen, -, -, hspread, hordered⟩ := select?_evenly hsome hshort 10
  obtain ⟨hlength, hposition⟩ := hspread (by decide) (by decide)
  exact ⟨hsome, hshort, chosen, hchosen, hlength,
    hordered (· < ·) pairwise_durationCandidates, hposition⟩

end RequestBreakdown.Boundary
