import Mathlib.Data.List.Find
import Mathlib.Data.List.Nodup
import Mathlib.Data.List.Perm.Subperm
import RequestBreakdown.Proofs.Value.Sameness
import RequestBreakdown.Result.Ranking

/-!
# The rows of ranges

Rows that are grouped by range have at most one group for each label.  Filling puts each
group at the place of its label, in whatever order the groups come, and zeros at the
labels that have none.  Where the groups are limited, zeros stand for groups that were
cut off as soon as there are more labels than rows.
-/

namespace RequestBreakdown.Rows

/-- The groups of a table by range: each has a label, and no two have the same. -/
structure AreGroups (labels : List String) (groups : List Row) : Prop where
  labelled : ∀ row ∈ groups, ∃ label ∈ labels, row.get groupColumn = .text label
  distinct : (groups.map (·.get groupColumn)).Nodup

/-- What is shown at a label: its group, and zeros just where it has none. -/
def shownAt (groups : List Row) (withSummary : Bool) (label : String) : Row :=
  (groups.find? (·.get groupColumn = .text label)).getD
    (zeroRow (.text label) withSummary)

variable {labels : List String} {groups ordered : List Row}

namespace AreGroups

theorem length_le (hgroups : AreGroups labels groups) :
    groups.length ≤ labels.length := by
  have hsubset : groups.map (·.get groupColumn) ⊆ labels.map Value.text := by
    intro value hvalue
    obtain ⟨row, hrow, rfl⟩ := List.mem_map.mp hvalue
    obtain ⟨label, hlabel, htext⟩ := hgroups.labelled row hrow
    exact List.mem_map.mpr ⟨label, hlabel, htext.symm⟩
  have hlength := (hgroups.distinct.subperm hsubset).length_le
  rwa [List.length_map, List.length_map] at hlength

theorem perm (hgroups : AreGroups labels groups) (hperm : ordered.Perm groups) :
    AreGroups labels ordered where
  labelled row hrow := hgroups.labelled row (hperm.mem_iff.mp hrow)
  distinct := (hperm.map _).nodup_iff.mpr hgroups.distinct

theorem find?_eq_some (hgroups : AreGroups labels groups) {value : Value} {row : Row} :
    groups.find? (·.get groupColumn = value) = some row ↔
      row ∈ groups ∧ row.get groupColumn = value := by
  constructor
  · intro hfind
    exact ⟨List.mem_of_find?_eq_some hfind, by simpa using List.find?_some hfind⟩
  · rintro ⟨hrow, rfl⟩
    cases hfind : groups.find? (·.get groupColumn = row.get groupColumn) with
    | none => exact absurd (decide_eq_true rfl) (List.find?_eq_none.mp hfind row hrow)
    | some other =>
        have hother := List.mem_of_find?_eq_some hfind
        have hvalue : other.get groupColumn = row.get groupColumn := by
          simpa using List.find?_some hfind
        rw [List.inj_on_of_nodup_map hgroups.distinct hother hrow hvalue]

/-- A group is found wherever it stands. -/
theorem find?_perm (hgroups : AreGroups labels groups) (hperm : ordered.Perm groups)
    (value : Value) :
    ordered.find? (·.get groupColumn = value) =
      groups.find? (·.get groupColumn = value) := by
  ext row
  rw [(hgroups.perm hperm).find?_eq_some, hgroups.find?_eq_some, hperm.mem_iff]

theorem findLabel?_eq (hgroups : AreGroups labels groups) (label : String) :
    findLabel? groups (.text label) =
      groups.find? (·.get groupColumn = .text label) := by
  have hreverse := hgroups.perm groups.reverse_perm
  have hsame : groups.reverse.find? (fun row => (row.get groupColumn).same (.text label)) =
      groups.reverse.find? (·.get groupColumn = .text label) := by
    refine List.find?_congr fun row hrow => ?_
    obtain ⟨other, -, htext⟩ := hreverse.labelled row hrow
    rw [Bool.eq_iff_iff, htext, Value.same_text, decide_eq_true_iff, Value.text.injEq]
  unfold findLabel?
  rw [hsame, hgroups.find?_perm groups.reverse_perm]
  cases hfind : groups.find? (·.get groupColumn = .text label) with
  | none => rfl
  | some row =>
      obtain ⟨-, hvalue⟩ := hgroups.find?_eq_some.mp hfind
      have hsome : row.isEmpty = false := by
        rw [Row.isEmpty, List.isEmpty_eq_false_iff]
        intro hnone
        simp [Row.get, Row.get?, hnone] at hvalue
      simp [hsome]

theorem fillRanges_eq (hgroups : AreGroups labels groups) (expected : List String)
    (withSummary : Bool) :
    fillRanges groups (expected.map .text) withSummary =
      expected.map (shownAt groups withSummary) := by
  rw [fillRanges, List.map_map]
  refine List.map_congr_left fun label _ => ?_
  rw [Function.comp_apply, hgroups.findLabel?_eq]
  rfl

/-- Where there is room for a group of each label none is cut off, in whatever order the
groups come, so zeros stand only where there is no group. -/
theorem fillRanges_take (hgroups : AreGroups labels groups) (hperm : ordered.Perm groups)
    {limit : Nat} (hlimit : labels.length ≤ limit) (withSummary : Bool) :
    fillRanges (ordered.take limit) (labels.map .text) withSummary =
      labels.map (shownAt groups withSummary) := by
  have hall : ordered.take limit = ordered := by
    apply List.take_of_length_le
    rw [hperm.length_eq]
    exact hgroups.length_le.trans hlimit
  rw [hall, (hgroups.perm hperm).fillRanges_eq]
  refine List.map_congr_left fun label _ => ?_
  rw [shownAt, shownAt, hgroups.find?_perm hperm]

end AreGroups

/-! ## Groups that are cut off -/

/-- The group of a range with one request. -/
def oneRequest (label : String) : Row := ⟨[(groupColumn, .text label), ("cnt", .int 1)]⟩

theorem areGroups_oneRequest (hlabels : labels.Nodup) :
    AreGroups labels (labels.map oneRequest) where
  labelled row hrow := by
    obtain ⟨label, hlabel, rfl⟩ := List.mem_map.mp hrow
    exact ⟨label, hlabel, rfl⟩
  distinct := by
    have hvalues : (labels.map oneRequest).map (·.get groupColumn) =
        labels.map .text := by
      rw [List.map_map]
      rfl
    rw [hvalues]
    exact List.Nodup.map (fun _ _ => Value.text.inj) hlabels

theorem shownAt_oneRequest (hlabels : labels.Nodup) (withSummary : Bool)
    (label : String) :
    shownAt (labels.map oneRequest) withSummary label =
      if label ∈ labels then oneRequest label else zeroRow (.text label) withSummary := by
  have hgroups := areGroups_oneRequest hlabels
  unfold shownAt
  split_ifs with hlabel
  · have hfound : (labels.map oneRequest).find?
        (·.get groupColumn = .text label) = some (oneRequest label) :=
      hgroups.find?_eq_some.mpr ⟨List.mem_map_of_mem hlabel, rfl⟩
    rw [hfound, Option.getD_some]
  · have hnone : (labels.map oneRequest).find?
        (·.get groupColumn = .text label) = none := by
      rw [Option.eq_none_iff_forall_ne_some]
      intro row hfind
      obtain ⟨hrow, hvalue⟩ := hgroups.find?_eq_some.mp hfind
      obtain ⟨other, hother, rfl⟩ := List.mem_map.mp hrow
      exact hlabel (Value.text.inj hvalue ▸ hother)
    rw [hnone, Option.getD_none]

/-- With more labels than rows, the first label behind the limit shows zeros though it
has a group. -/
theorem fillRanges_take_oneRequest_ne (hlabels : labels.Nodup) {limit : Nat}
    (hlimit : limit < labels.length) (withSummary : Bool) :
    fillRanges ((labels.map oneRequest).take limit) (labels.map .text) withSummary ≠
      labels.map (shownAt (labels.map oneRequest) withSummary) := by
  have hfirst : (labels.take limit).Nodup := hlabels.sublist (List.take_sublist limit labels)
  have hcut : labels[limit] ∉ labels.take limit := by
    intro hmem
    obtain ⟨i, hi, heq⟩ := List.mem_take_iff_getElem.mp hmem
    have hindex := hlabels.getElem_inj_iff.mp heq
    omega
  rw [← List.map_take, (areGroups_oneRequest hfirst).fillRanges_eq, ne_eq, List.map_inj_left]
  intro hsame
  have hat := hsame labels[limit] (List.getElem_mem hlimit)
  rw [shownAt_oneRequest hfirst, shownAt_oneRequest hlabels, if_neg hcut,
    if_pos (List.getElem_mem hlimit)] at hat
  simp [zeroRow, countColumns, oneRequest] at hat

end RequestBreakdown.Rows
