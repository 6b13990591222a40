import Mathlib.Data.List.FinRange
import Mathlib.Order.Monotone.Basic
import RequestBreakdown.Proofs.Sql.PlainText

/-!
# The boundaries that are selected

Boundaries are picked at even distances, at positions that never meet: with fewer
boundaries than candidates, one step is longer than one position.  What is picked
is therefore a part of the candidates in their order.
-/

namespace RequestBreakdown.Boundary

variable {α : Type} {candidates : List α} {count : Int}

/-- One even step leads to a later position. -/
theorem evenPosition_succ {last count : Nat} (hcount : 2 ≤ count)
    (hlast : count ≤ last + 1) (i : Nat) :
    evenPosition last count i < evenPosition last count (i + 1) := by
  unfold evenPosition
  have hpositive : 0 < 2 * (count - 1) := by omega
  -- The numerator grows by twice the last position, the divisor is less than that.
  have hstep : 2 * i * last + (count - 1) + 2 * (count - 1) ≤
      2 * (i + 1) * last + (count - 1) := by
    have hlong : 2 * (count - 1) ≤ 2 * last := by omega
    have hsplit : 2 * (i + 1) * last = 2 * i * last + 2 * last := by
      rw [Nat.mul_add, Nat.add_mul, Nat.mul_one]
    omega
  calc (2 * i * last + (count - 1)) / (2 * (count - 1))
      < (2 * i * last + (count - 1)) / (2 * (count - 1)) + 1 := Nat.lt_succ_self _
    _ = (2 * i * last + (count - 1) + 2 * (count - 1)) / (2 * (count - 1)) :=
        (Nat.add_div_right _ hpositive).symm
    _ ≤ (2 * (i + 1) * last + (count - 1)) / (2 * (count - 1)) :=
        Nat.div_le_div_right hstep

theorem evenPosition_strictMono {last count : Nat} (hcount : 2 ≤ count)
    (hlast : count ≤ last + 1) : StrictMono (evenPosition last count) :=
  strictMono_nat_of_lt_succ (evenPosition_succ hcount hlast)

/-- The last step leads to the last position. -/
theorem evenPosition_last {last count : Nat} (hcount : 2 ≤ count) :
    evenPosition last count (count - 1) = last := by
  unfold evenPosition
  have hpositive : 0 < 2 * (count - 1) := by omega
  have hhalf : (count - 1) / (2 * (count - 1)) = 0 := Nat.div_eq_of_lt (by omega)
  rw [Nat.add_comm, Nat.add_mul_div_left _ _ hpositive, hhalf, Nat.zero_add]

theorem evenPosition_le {last count i : Nat} (hcount : 2 ≤ count)
    (hlast : count ≤ last + 1) (hi : i < count) :
    evenPosition last count i ≤ last := by
  have hmono := (evenPosition_strictMono hcount hlast).monotone
  calc evenPosition last count i
      ≤ evenPosition last count (count - 1) := hmono (by omega)
    _ = last := evenPosition_last hcount

theorem filterMap_getElem?_sublist {position : Nat → Nat} {n : Nat}
    (hmono : StrictMono position) (hin : ∀ i < n, position i < candidates.length) :
    ((List.range n).filterMap fun i => candidates[position i]?).Sublist
      candidates := by
  let place (i : Fin n) : Fin candidates.length := ⟨position i, hin i i.isLt⟩
  have hplaces : ((List.finRange n).map place).Pairwise (· < ·) := by
    rw [List.pairwise_map]
    exact (List.pairwise_lt_finRange n).imp fun hlt => hmono hlt
  have hpicked : (List.range n).filterMap (fun i => candidates[position i]?) =
      ((List.finRange n).map place).map (candidates[·]) := by
    have hget : (fun i => candidates[position i]?) ∘ Fin.val =
        some ∘ ((candidates[·]) ∘ place) := by
      funext i
      exact List.getElem?_eq_getElem (hin i i.isLt)
    rw [← List.map_coe_finRange_eq_range, List.filterMap_map, hget,
      List.filterMap_eq_map, List.map_map]
  rw [hpicked]
  exact List.map_getElem_sublist hplaces

theorem select_sublist (candidates : List α) (count : Int) :
    (select candidates count).Sublist candidates := by
  unfold select
  split_ifs with hall hone
  · exact List.Sublist.refl _
  · cases hlast : candidates.getLast? with
    | none => exact List.nil_sublist _
    | some last =>
        have hmem : last ∈ candidates := List.mem_of_getLast? hlast
        exact List.singleton_sublist.mpr hmem
  · have hcount : 2 ≤ count.toNat := by omega
    have hlast : count.toNat ≤ candidates.length - 1 + 1 := by omega
    refine filterMap_getElem?_sublist (evenPosition_strictMono hcount hlast) ?_
    intro i hi
    have hle := evenPosition_le hcount hlast hi
    omega

theorem select_ne_nil (hsome : candidates ≠ []) (count : Int) :
    select candidates count ≠ [] := by
  have hlength : 0 < candidates.length := List.length_pos_iff.mpr hsome
  unfold select
  split_ifs with hall hone
  · exact hsome
  · rw [List.getLast?_eq_some_getLast hsome]
    exact List.cons_ne_nil _ _
  · have hfirst : candidates[evenPosition (candidates.length - 1) count.toNat 0]? ≠
        none := by
      have hle : evenPosition (candidates.length - 1) count.toNat 0 ≤
          candidates.length - 1 := evenPosition_le (by omega) (by omega) (by omega)
      rw [ne_eq, List.getElem?_eq_none_iff]
      omega
    obtain ⟨b, hb⟩ := Option.ne_none_iff_exists'.mp hfirst
    apply List.ne_nil_of_mem (a := b)
    exact List.mem_filterMap.mpr ⟨0, List.mem_range.mpr (by omega), hb⟩

theorem pairwise_byteCandidates : byteCandidates.Pairwise (· < ·) := by
  rw [byteCandidates_eq]
  decide

theorem pairwise_durationCandidates : durationCandidates.Pairwise (· < ·) := by
  decide

end RequestBreakdown.Boundary
