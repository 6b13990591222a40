import RequestBreakdown.Proofs.Fault
import RequestBreakdown.Proofs.Result.CountOrder

/-!
# Ranking and the order of arrival

Rows come from a backend in any order.  When no two of them have groups of the same
text, no two are equal in the order of ranking, so that there is only one list of them
in that order, and ranking returns it whatever the order was in which the rows came.
-/

namespace RequestBreakdown

/-- Records are read as the rows that they are. -/
theorem Row.listOf_value (rows : List Row) :
    listOf (.list (rows.map value)) = .ok rows := by
  have hread : rows.mapM (ofValue ∘ value) = .ok (rows.map id) := mapM_eq_ok fun _ _ => rfl
  rwa [List.map_id, ← List.mapM_map] at hread

namespace Rows

/-- A row comes before another one: its count is higher, or the counts are equal and the
text of its group is less. -/
def ComesBefore (a b : Row) : Prop :=
  integerCount b < integerCount a ∨
    (integerCount a = integerCount b ∧ (a.get "dim").display < (b.get "dim").display)

instance : DecidableRel ComesBefore := fun a b =>
  inferInstanceAs (Decidable (integerCount b < integerCount a ∨
    (integerCount a = integerCount b ∧ (a.get "dim").display < (b.get "dim").display)))

variable {rows others : List Row}

/-! ## Counts -/

theorem hasIntegerCount_of_int {row : Row} {i : Int} (hcount : row.get "cnt" = .int i) :
    HasIntegerCount row ∧ integerCount row = i := by
  have hself : countOrZero row "cnt" = .int i := by
    unfold countOrZero Value.orElse Value.present?
    rw [hcount]
    split_ifs with hpresent
    · rfl
    · have hzero : i = 0 := by
        simpa [Value.isPresent, Value.number?, Number.isZero] using hpresent
      rw [hzero]
      rfl
  refine ⟨⟨i, hself⟩, ?_⟩
  rw [integerCount, hself]

/-- A count that is null or missing is zero. -/
theorem hasIntegerCount_of_null {row : Row} (hcount : row.get "cnt" = .null) :
    HasIntegerCount row ∧ integerCount row = 0 := by
  have hzero : countOrZero row "cnt" = .int 0 := by
    rw [countOrZero, hcount]
    rfl
  refine ⟨⟨0, hzero⟩, ?_⟩
  rw [integerCount, hzero]

/-! ## One list in order -/

theorem ComesBefore.asymm {a b : Row} (hab : ComesBefore a b) : ¬ ComesBefore b a := by
  rintro (hcount' | ⟨heq', htext'⟩)
  · rcases hab with hcount | ⟨heq, -⟩
    · exact absurd hcount' hcount.not_gt
    · exact absurd heq hcount'.ne
  · rcases hab with hcount | ⟨-, htext⟩
    · exact absurd heq' hcount.ne
    · exact absurd htext' (String.lt_asymm htext)

/-- No two rows could change places, so there is one list of them in order. -/
theorem eq_of_pairwise_comesBefore (hperm : rows.Perm others)
    (hrows : rows.Pairwise ComesBefore) (hothers : others.Pairwise ComesBefore) :
    rows = others :=
  List.Perm.eq_of_pairwise (fun _ _ _ _ hab hba => absurd hba hab.asymm) hrows hothers hperm

theorem comesBefore_of_inCountOrder {a b : Row} (horder : inCountOrder a b = true)
    (hne : groupText a ≠ groupText b) : ComesBefore a b := by
  rw [inCountOrder_iff] at horder
  rcases horder with hlt | ⟨heq, hle⟩
  · exact .inl hlt
  · refine .inr ⟨heq, String.not_le.mp fun hge => ?_⟩
    exact hne (String.le_antisymm hle hge)

theorem pairwise_comesBefore (hdistinct : (rows.map groupText).Nodup) :
    (rows.mergeSort inCountOrder).Pairwise ComesBefore := by
  have hsorted := pairwise_sorted rows
  have hgroups : ((rows.mergeSort inCountOrder).map groupText).Nodup :=
    ((List.mergeSort_perm rows inCountOrder).map groupText).nodup_iff.mpr hdistinct
  rw [List.Nodup, List.pairwise_map] at hgroups
  exact (hsorted.and hgroups).imp fun ⟨horder, hne⟩ => comesBefore_of_inCountOrder horder hne

/-- Sorting forgets in which order the rows came. -/
theorem mergeSort_perm_eq (hperm : rows.Perm others)
    (hdistinct : (rows.map groupText).Nodup) :
    rows.mergeSort inCountOrder = others.mergeSort inCountOrder := by
  have hdistinct' : (others.map groupText).Nodup := (hperm.map groupText).nodup_iff.mp hdistinct
  have hsorted : (rows.mergeSort inCountOrder).Perm (others.mergeSort inCountOrder) :=
    (List.mergeSort_perm rows inCountOrder).trans
      (hperm.trans (List.mergeSort_perm others inCountOrder).symm)
  exact eq_of_pairwise_comesBefore hsorted (pairwise_comesBefore hdistinct)
    (pairwise_comesBefore hdistinct')

/-- Two lists of the same rows are ranked alike: all rows by falling count, and those of
equal count by the rising text of their group.  Rows without a group, or with an empty
one, are ranked among the others. -/
theorem rankItems_perm (hperm : rows.Perm others)
    (hcounts : ∀ row ∈ rows, HasIntegerCount row)
    (hdistinct : (rows.map fun row => (row.get "dim").display).Nodup) :
    ∃ ordered, rankItems (.list (rows.map Row.value)) = .ok ordered ∧
      rankItems (.list (others.map Row.value)) = .ok ordered ∧
      ordered.Perm rows ∧ ordered.Pairwise ComesBefore := by
  have hothers : ∀ row ∈ others, HasIntegerCount row :=
    fun row hrow => hcounts row (hperm.mem_iff.mpr hrow)
  refine ⟨rows.mergeSort inCountOrder, rankItems_eq (Row.listOf_value rows) hcounts, ?_,
    List.mergeSort_perm rows inCountOrder, pairwise_comesBefore hdistinct⟩
  rw [mergeSort_perm_eq hperm hdistinct]
  exact rankItems_eq (Row.listOf_value others) hothers

/-- A host without a name, requests without a host, and counts that are negative, null or
missing. -/
def unevenHosts : List Row := [
  ⟨[("dim", .text "b"), ("cnt", .int 5)]⟩,
  ⟨[("dim", .null), ("cnt", .null)]⟩,
  ⟨[("dim", .text ""), ("cnt", .int 5)]⟩,
  ⟨[("dim", .text "refunds"), ("cnt", .int (-1))]⟩,
  ⟨[("dim", .text "idle")]⟩]

theorem hasIntegerCount_unevenHosts : ∀ row ∈ unevenHosts, HasIntegerCount row := by
  intro row hrow
  simp only [unevenHosts, List.mem_cons, List.not_mem_nil, or_false] at hrow
  rcases hrow with rfl | rfl | rfl | rfl | rfl
  · exact (hasIntegerCount_of_int rfl).1
  · exact (hasIntegerCount_of_null rfl).1
  · exact (hasIntegerCount_of_int rfl).1
  · exact (hasIntegerCount_of_int rfl).1
  · exact (hasIntegerCount_of_null rfl).1

theorem rankItems_perm_unevenHosts :
    unevenHosts.Perm unevenHosts.reverse ∧
      (∀ row ∈ unevenHosts, HasIntegerCount row) ∧
      (unevenHosts.map fun row => (row.get "dim").display).Nodup ∧
      ∃ ordered, ordered = [
          ⟨[("dim", .text ""), ("cnt", .int 5)]⟩,
          ⟨[("dim", .text "b"), ("cnt", .int 5)]⟩,
          ⟨[("dim", .null), ("cnt", .null)]⟩,
          ⟨[("dim", .text "idle")]⟩,
          ⟨[("dim", .text "refunds"), ("cnt", .int (-1))]⟩] ∧
        rankItems (.list (unevenHosts.map Row.value)) = .ok ordered ∧
        rankItems (.list (unevenHosts.reverse.map Row.value)) = .ok ordered := by
  have hperm : unevenHosts.Perm unevenHosts.reverse := unevenHosts.reverse_perm.symm
  have hdistinct : (unevenHosts.map fun row => (row.get "dim").display).Nodup := by decide
  obtain ⟨ordered, hrank, hrank', hsame, hsorted⟩ :=
    rankItems_perm hperm hasIntegerCount_unevenHosts hdistinct
  refine ⟨hperm, hasIntegerCount_unevenHosts, hdistinct, ordered, ?_, hrank, hrank'⟩
  apply eq_of_pairwise_comesBefore (hsame.trans _) hsorted
  · decide
  · decide

end Rows

end RequestBreakdown
