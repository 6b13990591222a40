import Mathlib.Algebra.BigOperators.Group.List.Basic
import Mathlib.Data.List.Perm.Lattice
import RequestBreakdown.Proofs.Fault
import RequestBreakdown.Proofs.Result.RangeRows

/-!
# Zeros beside the groups

A table by range has a row for each label.  The groups of the ranges are among these
rows, each of them once, and what is there beside them are zeros, which add nothing to
any sum.  A table that has all its rows is left as it is.
-/

namespace RequestBreakdown.Rows

/-- What a column sums up to, where each value is taken for an amount. -/
def columnSum {M : Type} [AddCommMonoid M] (amount : Value → M) (rows : List Row)
    (column : String) : M :=
  (rows.map fun row => amount (row.get column)).sum

/-- The columns of a table by range that are summed up. -/
def summedColumns : List String := ["cnt", "cnt_ok", "cnt_4xx", "cnt_5xx", "summary_cnt"]

def hasGroup (groups : List Row) (label : String) : Bool :=
  groups.any (·.get groupColumn = .text label)

/-- The rows of the labels that have no group. -/
def zeroRows (labels : List String) (groups : List Row) (withSummary : Bool) : List Row :=
  (labels.filter (!hasGroup groups ·)).map fun label => zeroRow (.text label) withSummary

/-- All counts are zero, and so is the summary where one is asked for. -/
structure IsZero (row : Row) (withSummary : Bool) : Prop where
  counts : ∀ column ∈ ["cnt", "cnt_ok", "cnt_4xx", "cnt_5xx"], row.get? column = some (.int 0)
  summary : row.get? "summary_cnt" = if withSummary then some (.int 0) else none

theorem get_zeroRow_group (label : Value) (withSummary : Bool) :
    (zeroRow label withSummary).get groupColumn = label := rfl

theorem isZero_zeroRow (label : Value) (withSummary : Bool) :
    IsZero (zeroRow label withSummary) withSummary where
  counts column hcolumn := by
    simp only [List.mem_cons, List.not_mem_nil, or_false] at hcolumn
    rcases hcolumn with rfl | rfl | rfl | rfl <;> rfl
  summary := by cases withSummary <;> rfl

theorem IsZero.get_summed {row : Row} {withSummary : Bool} (hzero : IsZero row withSummary)
    {column : String} (hcolumn : column ∈ summedColumns) :
    row.get column = .int 0 ∨ row.get column = .null := by
  have hsplit : column ∈ ["cnt", "cnt_ok", "cnt_4xx", "cnt_5xx"] ++ ["summary_cnt"] := hcolumn
  rcases List.mem_append.mp hsplit with hcount | hsummary
  · left
    rw [Row.get, hzero.counts column hcount, Option.getD_some]
  · rw [Row.get, List.mem_singleton.mp hsummary, hzero.summary]
    cases withSummary with
    | true => exact .inl rfl
    | false => exact .inr rfl

namespace AreGroups

variable {labels : List String} {groups : List Row}

theorem shownAt_of_mem (hgroups : AreGroups labels groups) {row : Row} {label : String}
    (hrow : row ∈ groups) (hlabel : row.get groupColumn = .text label)
    (withSummary : Bool) : shownAt groups withSummary label = row := by
  rw [shownAt, hgroups.find?_eq_some.mpr ⟨hrow, hlabel⟩, Option.getD_some]

theorem get_shownAt (hgroups : AreGroups labels groups) (withSummary : Bool)
    (label : String) : (shownAt groups withSummary label).get groupColumn = .text label := by
  unfold shownAt
  cases hfind : groups.find? (·.get groupColumn = .text label) with
  | none => exact get_zeroRow_group ..
  | some row => exact (hgroups.find?_eq_some.mp hfind).2

theorem map_get_shownAt (hgroups : AreGroups labels groups) (withSummary : Bool)
    (expected : List String) :
    (expected.map (shownAt groups withSummary)).map (·.get groupColumn) =
      expected.map .text := by
  rw [List.map_map]
  exact List.map_congr_left fun label _ => hgroups.get_shownAt withSummary label

theorem nodup_shownAt (hgroups : AreGroups labels groups) (withSummary : Bool)
    {expected : List String} (hexpected : expected.Nodup) :
    ((expected.map (shownAt groups withSummary)).map (·.get groupColumn)).Nodup := by
  rw [hgroups.map_get_shownAt]
  exact hexpected.map fun _ _ => Value.text.inj

/-- The rows that are shown have a label each. -/
theorem shown (hgroups : AreGroups labels groups) (hlabels : labels.Nodup)
    (withSummary : Bool) : AreGroups labels (labels.map (shownAt groups withSummary)) where
  labelled row hrow := by
    obtain ⟨label, hlabel, rfl⟩ := List.mem_map.mp hrow
    exact ⟨label, hlabel, hgroups.get_shownAt withSummary label⟩
  distinct := hgroups.nodup_shownAt withSummary hlabels

theorem shownAt_of_hasGroup_eq_false {label : String}
    (hnone : hasGroup groups label = false) (withSummary : Bool) :
    shownAt groups withSummary label = zeroRow (.text label) withSummary := by
  have hfind : groups.find? (·.get groupColumn = .text label) = none := by
    simpa [hasGroup] using hnone
  rw [shownAt, hfind, Option.getD_none]

/-- Each group is shown at its label. -/
theorem perm_shownAt_hasGroup (hgroups : AreGroups labels groups) (hlabels : labels.Nodup)
    (withSummary : Bool) :
    ((labels.filter (hasGroup groups)).map (shownAt groups withSummary)).Perm groups := by
  have hrows : ((labels.filter (hasGroup groups)).map (shownAt groups withSummary)).Nodup :=
    (hgroups.nodup_shownAt withSummary (hlabels.filter _)).of_map _
  rw [List.perm_ext_iff_of_nodup hrows hgroups.distinct.of_map]
  intro row
  rw [List.mem_map]
  constructor
  · rintro ⟨label, hlabel, rfl⟩
    obtain ⟨row, hrow, htext⟩ := List.any_eq_true.mp (List.mem_filter.mp hlabel).2
    rwa [hgroups.shownAt_of_mem hrow (of_decide_eq_true htext)]
  · intro hrow
    obtain ⟨label, hlabel, htext⟩ := hgroups.labelled row hrow
    have hhas : hasGroup groups label = true :=
      List.any_eq_true.mpr ⟨row, hrow, decide_eq_true htext⟩
    exact ⟨label, List.mem_filter.mpr ⟨hlabel, hhas⟩, hgroups.shownAt_of_mem hrow htext _⟩

/-- What is shown are the groups, and zeros at the labels without one. -/
theorem perm_shownAt (hgroups : AreGroups labels groups) (hlabels : labels.Nodup)
    (withSummary : Bool) :
    (labels.map (shownAt groups withSummary)).Perm
      (groups ++ zeroRows labels groups withSummary) := by
  have hsplit := List.filter_append_perm (hasGroup groups) labels
  have hzeros : (labels.filter (!hasGroup groups ·)).map (shownAt groups withSummary) =
      zeroRows labels groups withSummary := by
    refine List.map_congr_left fun label hlabel => ?_
    have hnone : hasGroup groups label = false := by
      simpa using (List.mem_filter.mp hlabel).2
    exact shownAt_of_hasGroup_eq_false hnone withSummary
  refine (hsplit.symm.map _).trans ?_
  rw [List.map_append, hzeros]
  exact (hgroups.perm_shownAt_hasGroup hlabels withSummary).append_right _

/-- Rows that are shown already are shown as they are. -/
theorem map_shownAt_shown (hgroups : AreGroups labels groups) (hlabels : labels.Nodup)
    (withSummary : Bool) :
    labels.map (shownAt (labels.map (shownAt groups withSummary)) withSummary) =
      labels.map (shownAt groups withSummary) :=
  List.map_congr_left fun label hlabel =>
    (hgroups.shown hlabels withSummary).shownAt_of_mem (List.mem_map_of_mem hlabel)
      (hgroups.get_shownAt withSummary label) withSummary

/-- Rows and labels that are given as values are filled. -/
theorem fillItems_eq (hgroups : AreGroups labels groups) (withSummary : Bool) :
    fillItems (.list (groups.map Row.value)) (.list (labels.map .text)) withSummary =
      .ok (labels.map (shownAt groups withSummary)) := by
  have hfound : ∀ row ∈ groups, rowInRange row.value = .ok row := by
    intro row hrow
    obtain ⟨label, -, htext⟩ := hgroups.labelled row hrow
    have hname : (row.get groupColumn).asName = .ok (.text label) := congrArg Value.asName htext
    rw [rowInRange, bind_eq_ok]
    exact ⟨row, rfl, bind_eq_ok.mpr ⟨⟨⟩, discard_eq_ok.mpr ⟨_, hname⟩, rfl⟩⟩
  have hrows : (groups.map Row.value).mapM rowInRange = .ok groups := by
    rw [List.mapM_map]
    exact (mapM_eq_ok hfound).trans (congrArg Except.ok (List.map_id groups))
  have hnames : (labels.map Value.text).mapM Value.asName = .ok (labels.map Value.text) := by
    rw [List.mapM_map]
    exact mapM_eq_ok fun _ _ => rfl
  rw [fillItems, bind_eq_ok]
  refine ⟨_, rfl, bind_eq_ok.mpr ⟨_, hrows, bind_eq_ok.mpr ⟨_, rfl, bind_eq_ok.mpr
    ⟨_, hnames, ?_⟩⟩⟩⟩
  exact congrArg Except.ok (hgroups.fillRanges_eq labels withSummary)

end AreGroups

theorem isZero_of_mem_zeroRows {labels : List String} {groups : List Row}
    {withSummary : Bool} {row : Row} (hrow : row ∈ zeroRows labels groups withSummary) :
    IsZero row withSummary := by
  obtain ⟨label, -, rfl⟩ := List.mem_map.mp hrow
  exact isZero_zeroRow ..

/-! ## Sums -/

section Sums

variable {M : Type} [AddCommMonoid M] {amount : Value → M}

theorem columnSum_perm {rows others : List Row} (hperm : rows.Perm others)
    (amount : Value → M) (column : String) :
    columnSum amount rows column = columnSum amount others column :=
  (hperm.map _).sum_eq

theorem columnSum_append (amount : Value → M) (rows others : List Row) (column : String) :
    columnSum amount (rows ++ others) column =
      columnSum amount rows column + columnSum amount others column := by
  rw [columnSum, List.map_append, List.sum_append]
  rfl

theorem columnSum_zeroRows (hnull : amount .null = 0) (hzero : amount (.int 0) = 0)
    {column : String} (hcolumn : column ∈ summedColumns) (labels : List String)
    (groups : List Row) (withSummary : Bool) :
    columnSum amount (zeroRows labels groups withSummary) column = 0 := by
  apply List.sum_eq_zero
  intro value hvalue
  obtain ⟨row, hrow, rfl⟩ := List.mem_map.mp hvalue
  rcases (isZero_of_mem_zeroRows hrow).get_summed hcolumn with hget | hget
  · rw [hget, hzero]
  · rw [hget, hnull]

end Sums

/-- Filling gives a row for each label, in the order of the labels.  Each group is one of
these rows, as it came and once; all others are zeros, so the columns sum up to what they
did before, whatever their values are taken for.  Filling once more changes nothing. -/
theorem fillItems_conserves {labels : List String} {groups : List Row}
    (hlabels : labels.Nodup) (hgroups : AreGroups labels groups) (withSummary : Bool) :
    ∃ filled,
      fillItems (.list (groups.map Row.value)) (.list (labels.map .text)) withSummary =
        .ok filled ∧
      filled.map (·.get "dim") = labels.map .text ∧
      (∀ row ∈ groups, filled.count row = 1) ∧
      filled.Perm (groups ++ zeroRows labels groups withSummary) ∧
      (∀ row ∈ zeroRows labels groups withSummary, IsZero row withSummary) ∧
      (∀ (M : Type) [AddCommMonoid M] (amount : Value → M),
        amount .null = 0 → amount (.int 0) = 0 → ∀ column ∈ summedColumns,
          columnSum amount filled column = columnSum amount groups column) ∧
      fillItems (.list (filled.map Row.value)) (.list (labels.map .text)) withSummary =
        .ok filled := by
  have hperm := hgroups.perm_shownAt hlabels withSummary
  have hrows : (labels.map (shownAt groups withSummary)).Nodup :=
    (hgroups.nodup_shownAt withSummary hlabels).of_map _
  refine ⟨labels.map (shownAt groups withSummary), hgroups.fillItems_eq withSummary,
    hgroups.map_get_shownAt withSummary labels, ?_, hperm,
    fun row hrow => isZero_of_mem_zeroRows hrow, ?_, ?_⟩
  · intro row hrow
    exact List.count_eq_one_of_mem hrows (hperm.mem_iff.mpr (List.mem_append_left _ hrow))
  · intro M _ amount hnull hzero column hcolumn
    rw [columnSum_perm hperm, columnSum_append, columnSum_zeroRows hnull hzero hcolumn,
      add_zero]
  · have hagain := (hgroups.shown hlabels withSummary).fillItems_eq withSummary
    rwa [hgroups.map_shownAt_shown hlabels withSummary] at hagain

/-- Three ranges, of which the first has no group, and the others come the last one first. -/
def bodySizes : List String := ["0 (empty)", "1 B-10 B", "≥ 10 B"]

def bodySizeGroups : List Row := [
  ⟨[("dim", .text "≥ 10 B"), ("cnt", .int 0), ("min_val", .int 12)]⟩,
  ⟨[("dim", .text "1 B-10 B"), ("cnt", .int 7), ("cnt_4xx", .int 2), ("summary_cnt", .int 3)]⟩]

theorem areGroups_bodySizeGroups : AreGroups bodySizes bodySizeGroups where
  labelled row hrow := by
    simp only [bodySizeGroups, List.mem_cons, List.not_mem_nil, or_false] at hrow
    rcases hrow with rfl | rfl
    · exact ⟨"≥ 10 B", by decide, rfl⟩
    · exact ⟨"1 B-10 B", by decide, rfl⟩
  distinct := by decide

theorem fillItems_conserves_bodySizes :
    bodySizes.Nodup ∧ AreGroups bodySizes bodySizeGroups ∧
      ∃ filled,
        fillItems (.list (bodySizeGroups.map Row.value)) (.list (bodySizes.map .text)) true =
          .ok filled ∧
        filled.map (·.get "dim") = bodySizes.map .text ∧
        filled.Perm
          (bodySizeGroups ++ [zeroRow (.text "0 (empty)") true]) := by
  have hlabels : bodySizes.Nodup := by decide
  obtain ⟨filled, hfilled, horder, -, hperm, -⟩ :=
    fillItems_conserves hlabels areGroups_bodySizeGroups true
  exact ⟨hlabels, areGroups_bodySizeGroups, filled, hfilled, horder, hperm⟩

end RequestBreakdown.Rows
