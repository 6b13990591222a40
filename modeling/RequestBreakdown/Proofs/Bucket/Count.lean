import RequestBreakdown.Proofs.Bucket.Ranges

/-!
# How many ranges there are

Between the fewest and the most ranges that a kind can have, there are as many as are
asked for.  One boundary is always selected, and no more than there are candidates, so
asking for fewer or for more changes nothing.
-/

namespace RequestBreakdown

theorem Boundary.length_select {α : Type} {candidates : List α} (hsome : candidates ≠ [])
    (count : Int) :
    ((select candidates count).length : Int) = max 1 (min count candidates.length) := by
  have hlength : 0 < candidates.length := List.length_pos_iff.mpr hsome
  unfold select
  split_ifs with hall hone
  · omega
  · rw [List.getLast?_eq_some_getLast hsome, Option.toList_some, List.length_singleton]
    omega
  · have hpicked : ((List.range count.toNat).filterMap fun i =>
        candidates[evenPosition (candidates.length - 1) count.toNat i]?).length =
          count.toNat := by
      rw [List.length_filterMap_eq_countP, List.countP_eq_length.mpr, List.length_range]
      intro i hi
      have hle : evenPosition (candidates.length - 1) count.toNat i ≤
          candidates.length - 1 :=
        evenPosition_le (by omega) (by omega) (List.mem_range.mp hi)
      rw [List.getElem?_eq_getElem (by omega), Option.isSome_some]
    rw [hpicked]
    omega

namespace RangeKind

def fewest : RangeKind → Int
  | .bytes => 3
  | .durations => 2

def most : RangeKind → Int
  | .bytes => 24
  | .durations => 29

variable (kind : RangeKind) (n : Int)

theorem fewest_eq : kind.fewest = 1 + kind.surplus := by
  cases kind <;> rfl

theorem most_eq : kind.most = kind.candidates.length + kind.surplus := by
  cases kind with
  | bytes =>
      rw [candidates, Boundary.byteCandidates_eq]
      rfl
  | durations => rfl

theorem boundaries_eq_select : (kind.partition n).boundaries =
    Boundary.select kind.candidates (max 1 (n - kind.surplus)) := by
  cases kind <;> rfl

theorem length_labels_eq : ((kind.partition n).labels.length : Int) =
    max kind.fewest (min n kind.most) := by
  have hsome : kind.candidates ≠ [] := by
    intro hnone
    have hsublist := kind.boundaries_sublist n
    rw [hnone, List.sublist_nil] at hsublist
    exact kind.boundaries_ne_nil n hsublist
  have hselect := Boundary.length_select hsome (max 1 (n - kind.surplus))
  have hfewest := kind.fewest_eq
  have hmost := kind.most_eq
  have hcandidates : 0 < kind.candidates.length := List.length_pos_iff.mpr hsome
  rw [length_labels, boundaries_eq_select, Int.natCast_add, hselect]
  omega

end RangeKind

end RequestBreakdown
