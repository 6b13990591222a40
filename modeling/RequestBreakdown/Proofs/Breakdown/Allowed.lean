import RequestBreakdown.Proofs.Bucket.Offered

/-!
# The columns that names mean

A name of the catalog means a column.  Whether filters may test that column depends on
the number of rows only where the name is that of a breakdown by ranges: then the
expression must be that of one of the numbers offered.
-/

namespace RequestBreakdown

namespace Breakdown

variable {b : Breakdown} {kind : RangeKind} {column name : String} {topN : Int}

/-- The columns allowed are those allowed without any numbers, and the expressions of the
ranges for each number. -/
theorem mem_allowedColumns_iff {breakdowns : List Breakdown} {options : List Int} :
    column ∈ allowedColumns breakdowns options ↔
      column ∈ allowedColumns breakdowns [] ∨
      ∃ b ∈ breakdowns, ∃ kind shown, b.dimension = .ranges kind shown ∧
        ∃ m ∈ options, (kind.partition m).expression shown = column := by
  have hfilterable : ∀ b : Breakdown, Value.text column ∈ b.filterableColumns options ↔
      Value.text column ∈ b.filterableColumns [] ∨
      ∃ kind shown, b.dimension = .ranges kind shown ∧
        ∃ m ∈ options, (kind.partition m).expression shown = column := by
    intro b
    cases hdimension : b.dimension with
    | expression value => simp [filterableColumns, hdimension]
    | ranges kind shown =>
        simp [filterableColumns, hdimension, Breakdown.column, Dimension.resolve,
          or_comm]
  have htext : ∀ value : Value, value.text? = some column ↔ value = .text column := by
    intro value
    cases value <;> simp [Value.text?]
  simp only [allowedColumns, List.mem_append, List.mem_filterMap, List.mem_flatMap, htext,
    exists_eq_right, hfilterable]
  constructor
  · rintro (hlog | ⟨b, hb, hfixed | hranges⟩)
    · exact .inl (.inl hlog)
    · exact .inl (.inr ⟨b, hb, hfixed⟩)
    · exact .inr ⟨b, hb, hranges⟩
  · rintro ((hlog | ⟨b, hb, hfixed⟩) | ⟨b, hb, hranges⟩)
    · exact .inl hlog
    · exact .inr ⟨b, hb, .inl hfixed⟩
    · exact .inr ⟨b, hb, .inr hranges⟩

/-! ## Ranges -/

/-- No column that is allowed whatever the numbers are is read as ranges. -/
theorem read?_fixed : ∀ column ∈ allowedColumns all [],
    CaseExpression.read? column = none := by
  decide +kernel

/-- The column that is cut into ranges and the way it is cut. -/
def ranges? (b : Breakdown) : Option (RangeKind × String) :=
  match b.dimension with
  | .expression _ => none
  | .ranges kind column => some (kind, column)

theorem ranges?_eq_some :
    b.ranges? = some (kind, column) ↔ b.dimension = .ranges kind column := by
  unfold ranges?
  cases b.dimension <;> simp

/-- Two columns are cut into ranges, each in its own way. -/
theorem filterMap_ranges? : all.filterMap ranges? =
    [(.bytes, contentLengthColumn), (.durations, timeElapsedColumn)] := by
  decide +kernel

theorem ranges_cases (hb : b ∈ all) (hdimension : b.dimension = .ranges kind column) :
    kind = .bytes ∧ column = contentLengthColumn ∨
      kind = .durations ∧ column = timeElapsedColumn := by
  have hmem : (kind, column) ∈ all.filterMap ranges? :=
    List.mem_filterMap.mpr ⟨b, hb, ranges?_eq_some.mpr hdimension⟩
  rw [filterMap_ranges?] at hmem
  simpa using hmem

theorem isWord_ranges (hb : b ∈ all) (hdimension : b.dimension = .ranges kind column) :
    IsWord column := by
  rcases ranges_cases hb hdimension with ⟨-, rfl⟩ | ⟨-, rfl⟩ <;> decide

theorem kind_of_ranges {c : Breakdown} {other : RangeKind} (hb : b ∈ all)
    (hdimension : b.dimension = .ranges kind column) (hc : c ∈ all)
    (hother : c.dimension = .ranges other column) : other = kind := by
  have hapart : contentLengthColumn ≠ timeElapsedColumn := by decide
  rcases ranges_cases hb hdimension with ⟨rfl, rfl⟩ | ⟨rfl, rfl⟩ <;>
    rcases ranges_cases hc hother with ⟨rfl, hsame⟩ | ⟨rfl, hsame⟩
  · rfl
  · exact absurd hsame hapart
  · exact absurd hsame.symm hapart
  · rfl

theorem ranges_mem_allowed_iff (hb : b ∈ all)
    (hdimension : b.dimension = .ranges kind column) :
    (kind.partition topN).expression column ∈ allowedColumns ↔
      topN ∈ topNOptions ∨ kind.most ≤ topN := by
  have hword := isWord_ranges hb hdimension
  rw [← RangeKind.exists_offered_iff hword, mem_allowedColumns_iff]
  constructor
  · rintro (hfixed | ⟨c, hc, other, shown, hother, m, hm, hsame⟩)
    · have hnone := read?_fixed _ hfixed
      rw [kind.read?_expression topN hword] at hnone
      cases hnone
    · obtain rfl := RangeKind.column_of_expression_eq (isWord_ranges hc hother) hword hsame
      obtain rfl := kind_of_ranges hb hdimension hc hother
      exact ⟨m, hm, hsame⟩
  · rintro ⟨m, hm, hsame⟩
    exact .inr ⟨b, hb, kind, column, hdimension, m, hm, hsame⟩

/-! ## Fixed expressions -/

/-- The expression that is shown, if that is fixed. -/
def expression? (b : Breakdown) : Option Value :=
  match b.dimension with
  | .expression value => some value
  | .ranges .. => none

theorem expression_mem_allowed (hb : b ∈ all) {value : Value}
    (hdimension : b.dimension = .expression value) :
    ∃ column ∈ allowedColumns, value = .text column := by
  have hall : ∀ value ∈ all.filterMap expression?,
      value ∈ (allowedColumns all []).map .text := by
    decide +kernel
  have hexpression : b.expression? = some value := by
    rw [expression?, hdimension]
  obtain ⟨column, hcolumn, rfl⟩ :=
    List.mem_map.mp (hall value (List.mem_filterMap.mpr ⟨b, hb, hexpression⟩))
  exact ⟨column, mem_allowedColumns_iff.mpr (.inl hcolumn), rfl⟩

/-- A column that is tested instead of the one shown is allowed, as the one shown is. -/
theorem filterColumn_facts (hb : b ∈ all) {filterColumn : Value}
    (hfilter : b.filterColumn.present? = some filterColumn) :
    (∃ name ∈ allowedColumns, filterColumn = .text name) ∧
      filterColumn.isPresent = true ∧
      (∃ operator, b.filterOperator.text?.bind FilterOperator.ofText? = some operator) ∧
      ∃ value, b.dimension = .expression value := by
  have hall : ∀ b ∈ all, ∀ value ∈ b.filterColumn.present?.toList,
      value ∈ (allowedColumns all []).map .text ∧ value.isPresent = true ∧
        (b.filterOperator.text?.bind FilterOperator.ofText?).isSome ∧
        b.expression?.isSome := by
    decide +kernel
  obtain ⟨hallowed, hpresent, hoperator, hexpression⟩ :=
    hall b hb filterColumn (Option.mem_toList.mpr hfilter)
  obtain ⟨name, hname, rfl⟩ := List.mem_map.mp hallowed
  refine ⟨⟨name, mem_allowedColumns_iff.mpr (.inl hname), rfl⟩, hpresent,
    Option.isSome_iff_exists.mp hoperator, ?_⟩
  cases hdimension : b.dimension with
  | expression value => exact ⟨value, rfl⟩
  | ranges kind column => simp [expression?, hdimension] at hexpression

/-! ## Names of the catalog -/

/-- The name of a breakdown, with or without its first part, or of a field. -/
def InCatalog (name : String) : Prop :=
  (ofName? name).isSome ∨ (LogColumn.ofKey? name).isSome

instance (name : String) : Decidable (InCatalog name) :=
  inferInstanceAs (Decidable (_ ∨ _))

/-- Where the name means ranges, their number is one of those offered, or as large as
all of them. -/
def IsOffered (name : String) (topN : Int) : Prop :=
  ∀ b kind column, ofName? name = some b → b.dimension = .ranges kind column →
    topN ∈ topNOptions ∨ kind.most ≤ topN

/-- The column of a name of the catalog may be tested just where its number is offered. -/
theorem columnOfName_catalog (hname : InCatalog name) (topN : Int) :
    ∃ column, columnOfName (.text name) (.int topN) = .ok (.text column) ∧
      (column ∈ allowedColumns ↔ IsOffered name topN) := by
  cases hfound : ofName? name with
  | some b =>
      have hb : b ∈ all := List.mem_of_find?_eq_some hfound
      have hresolve : columnOfName (.text name) (.int topN) =
          b.dimension.resolveFor (.int topN) := by
        simp [columnOfName, Value.asName, hfound, bind, Except.bind]
      cases hdimension : b.dimension with
      | expression value =>
          obtain ⟨column, hallowed, rfl⟩ := expression_mem_allowed hb hdimension
          refine ⟨column, ?_, iff_of_true hallowed ?_⟩
          · rw [hresolve, hdimension]
            rfl
          · intro c kind shown hc hranges
            rw [hfound] at hc
            cases hc
            rw [hdimension] at hranges
            cases hranges
      | ranges kind column =>
          refine ⟨(kind.partition topN).expression column, ?_, ?_⟩
          · rw [hresolve, hdimension]
            cases kind <;> rfl
          · rw [ranges_mem_allowed_iff hb hdimension]
            constructor
            · intro hoffered c other shown hc hranges
              rw [hfound] at hc
              cases hc
              rw [hdimension] at hranges
              cases hranges
              exact hoffered
            · exact fun hoffered => hoffered b kind column hfound hdimension
  | none =>
      have hkey : (LogColumn.ofKey? name).isSome := by
        simpa [InCatalog, hfound] using hname
      obtain ⟨field, hfield⟩ := Option.isSome_iff_exists.mp hkey
      refine ⟨field.expression, ?_, iff_of_true ?_ ?_⟩
      · simp [columnOfName, Value.asName, hfound, columnOfField, hfield, bind, Except.bind,
          pure, Except.pure]
      · exact List.mem_append_left _
          (List.mem_map_of_mem (List.mem_of_find?_eq_some hfield))
      · intro b kind column hb
        rw [hfound] at hb
        cases hb

end Breakdown

end RequestBreakdown
