import Mathlib.Data.List.Induction
import RequestBreakdown.Proofs.Filter.Groups

/-!
# Every filter accounted for

A filter is applied when its column and its operator are allowed; else it is left out,
is listed, and has no other effect.  Each filter that is applied adds one comparison to
one side of the one group of its column, so that the groups can be read off the filters:
the columns in the order in which they first come, and on each side of a column the
comparisons in the order of the filters.  Filters on different columns, or on different
sides of one, may therefore change places; only the groups may be listed in another order.
-/

namespace RequestBreakdown

namespace Filter

def isApplied (allowed : List String) (f : Filter) : Bool :=
  (allowed.map Value.text).contains f.sqlColumn &&
    [Value.text "=", Value.text "LIKE"].contains f.filterOperator

/-- The filter as it is listed when it is left out: a column that is not allowed is the
reason, whatever the operator is. -/
def rejection (allowed : List String) (f : Filter) : Rejection where
  column := f.sqlColumn
  reason :=
    if (allowed.map Value.text).contains f.sqlColumn then
      .operatorNotAllowed f.filterOperator
    else .columnNotAllowed

/-- What the filter asks of its column, when it is applied. -/
def comparison (f : Filter) : Comparison where
  value := f.sqlValue
  operator := if f.filterOperator = .text "LIKE" then .like else .equals

def testedColumn (f : Filter) : String := f.sqlColumn.display

/-- What an accepted filter compares: the column and the value that it is set on, unless it
names others to be tested instead. -/
structure Compares (allowed : List String) (f : Filter) (column : String) (c : Comparison) :
    Prop where
  allowed : column ∈ allowed
  column : (if f.filterColumn.isPresent then f.filterColumn else f.column) = .text column
  value : c.value = if f.filterValue = .null then f.value else f.filterValue
  operator : f.filterOperator = .text "=" ∧ c.operator = .equals ∨
    f.filterOperator = .text "LIKE" ∧ c.operator = .like

/-- Whether the filter is for a column, and for values kept or for values dropped. -/
def isFor (column : Value) (exclude : Bool) (f : Filter) : Bool :=
  f.sqlColumn = column ∧ f.excludes = exclude

end Filter

/-- The group of a column, with the comparisons of the filters for it. -/
def FilterGroup.ofFilters (filters : List Filter) (column : String) : FilterGroup where
  column := column
  includes := (filters.filter (·.isFor column false)).map (·.comparison)
  excludes := (filters.filter (·.isFor column true)).map (·.comparison)

theorem FilterOperator.bind_ofText?_eq_some {value : Value} {operator : FilterOperator} :
    value.text?.bind FilterOperator.ofText? = some operator ↔ value = .text operator.text := by
  have hread : ∀ s, FilterOperator.ofText? s = some operator ↔ s = operator.text := by
    intro s
    unfold FilterOperator.ofText?
    split <;> cases operator <;> simp_all [FilterOperator.text]
  cases value with
  | text s => simp [Value.text?, hread]
  | _ => simp [Value.text?]

namespace Filter

variable {allowed : List String} {f : Filter}

theorem sqlColumn_eq :
    f.sqlColumn = if f.filterColumn.isPresent then f.filterColumn else f.column := by
  unfold sqlColumn Value.orElse Value.present?
  split <;> rfl

theorem column_allowed_iff :
    (allowed.map Value.text).contains f.sqlColumn = true ↔
      ∃ column ∈ allowed, f.sqlColumn = .text column := by
  rw [List.contains_iff_mem, List.mem_map]
  exact exists_congr fun column => and_congr_right fun _ => eq_comm

theorem operator_allowed_iff {value : Value} :
    [Value.text "=", Value.text "LIKE"].contains value = true ↔
      ∃ operator : FilterOperator, value = .text operator.text := by
  rw [List.contains_iff_mem, List.mem_pair]
  constructor
  · rintro (hequals | hlike)
    · exact ⟨.equals, hequals⟩
    · exact ⟨.like, hlike⟩
  · rintro ⟨operator, hoperator⟩
    cases operator with
    | equals => exact .inl hoperator
    | like => exact .inr hoperator

theorem isApplied_iff :
    f.isApplied allowed = true ↔
      (∃ column ∈ allowed, f.sqlColumn = .text column) ∧
        ∃ operator : FilterOperator, f.filterOperator = .text operator.text := by
  rw [isApplied, Bool.and_eq_true, column_allowed_iff, operator_allowed_iff]

theorem testedColumn_eq {column : String} (hcolumn : f.sqlColumn = .text column) :
    f.testedColumn = column := by
  rw [testedColumn, hcolumn]
  rfl

theorem comparison_eq {operator : FilterOperator}
    (hoperator : f.filterOperator = .text operator.text) :
    f.comparison = ⟨f.sqlValue, operator⟩ := by
  cases operator <;> simp [comparison, hoperator, FilterOperator.text]

/-- A filter that is applied stands in its group as it was given. -/
theorem given_of_isApplied (happlied : f.isApplied allowed = true) :
    f.testedColumn ∈ allowed ∧ f.sqlColumn = .text f.testedColumn ∧
      f.filterOperator = .text f.comparison.operator.text := by
  obtain ⟨⟨column, hallowed, hcolumn⟩, operator, hoperator⟩ := isApplied_iff.mp happlied
  rw [testedColumn_eq hcolumn, comparison_eq hoperator]
  exact ⟨hallowed, hcolumn, hoperator⟩

end Filter

namespace FilterPredicate

variable {allowed : List String} {f : Filter}

theorem filter_text?_eq_some {value : Value} {column : String} :
    value.text?.filter allowed.contains = some column ↔
      column ∈ allowed ∧ value = .text column := by
  rw [Option.filter_eq_some_iff, List.contains_iff_mem, and_comm]
  cases value <;> simp [Value.text?]

theorem check_of_isApplied (happlied : f.isApplied allowed = true) :
    check allowed f = .ok (f.testedColumn, f.comparison) := by
  obtain ⟨⟨column, hallowed, hcolumn⟩, operator, hoperator⟩ :=
    Filter.isApplied_iff.mp happlied
  unfold check
  rw [filter_text?_eq_some.mpr ⟨hallowed, hcolumn⟩,
    FilterOperator.bind_ofText?_eq_some.mpr hoperator,
    Filter.testedColumn_eq hcolumn, Filter.comparison_eq hoperator]

theorem check_of_not_isApplied (hnot : ¬ f.isApplied allowed = true) :
    check allowed f = .error (f.rejection allowed) := by
  rw [Filter.isApplied_iff] at hnot
  unfold check Filter.rejection
  cases hcolumn : f.sqlColumn.text?.filter allowed.contains with
  | none =>
      have hother : ¬ (allowed.map Value.text).contains f.sqlColumn = true := by
        rw [Filter.column_allowed_iff]
        rintro ⟨column, hfound⟩
        rw [filter_text?_eq_some.mpr hfound] at hcolumn
        exact absurd hcolumn (by simp)
      rw [if_neg hother]
  | some column =>
      have hfound := Filter.column_allowed_iff.mpr ⟨column, filter_text?_eq_some.mp hcolumn⟩
      rw [if_pos hfound]
      cases hoperator : f.filterOperator.text?.bind FilterOperator.ofText? with
      | none => rfl
      | some operator =>
          have hknown := FilterOperator.bind_ofText?_eq_some.mp hoperator
          exact absurd ⟨Filter.column_allowed_iff.mp hfound, operator, hknown⟩ hnot

/-- A filter that is accepted compares a column that is allowed with its value, by the
operator that it names. -/
theorem check_eq_ok {column : String} {c : Comparison} :
    check allowed f = .ok (column, c) ↔ f.Compares allowed column c := by
  constructor
  · intro hcheck
    by_cases happlied : f.isApplied allowed = true
    · rw [check_of_isApplied happlied] at hcheck
      cases hcheck
      obtain ⟨hallowed, hcolumn, hoperator⟩ := Filter.given_of_isApplied happlied
      refine ⟨hallowed, Filter.sqlColumn_eq.symm.trans hcolumn, rfl, ?_⟩
      cases hfound : f.comparison.operator with
      | equals => exact .inl ⟨by rw [hoperator, hfound]; rfl, rfl⟩
      | like => exact .inr ⟨by rw [hoperator, hfound]; rfl, rfl⟩
    · rw [check_of_not_isApplied happlied] at hcheck
      cases hcheck
  · obtain ⟨value, operator⟩ := c
    rintro ⟨hallowed, hcolumn, hvalue, hoperator⟩
    rw [← Filter.sqlColumn_eq] at hcolumn
    obtain rfl : value = f.sqlValue := hvalue
    have hknown : f.filterOperator = .text operator.text := by
      rcases hoperator with ⟨hoperator, rfl⟩ | ⟨hoperator, rfl⟩
      · exact hoperator
      · exact hoperator
    have happlied := Filter.isApplied_iff.mpr ⟨⟨column, hallowed, hcolumn⟩, operator, hknown⟩
    rw [check_of_isApplied happlied, Filter.testedColumn_eq hcolumn,
      Filter.comparison_eq hknown]

/-! ## Filters left out, and filters applied -/

theorem rejected_compile (allowed : List String) (filters : List Filter) :
    (compile allowed filters).rejected =
      (filters.filter fun f => !f.isApplied allowed).map (·.rejection allowed) := by
  have hfrom : ∀ p : FilterPredicate,
      (filters.foldl (addFilter allowed) p).rejected = p.rejected ++
        (filters.filter fun f => !f.isApplied allowed).map (·.rejection allowed) := by
    induction filters with
    | nil => simp
    | cons f rest ih =>
        intro p
        rw [List.foldl_cons, ih, addFilter]
        by_cases happlied : f.isApplied allowed = true
        · simp [check_of_isApplied happlied, happlied]
        · simp [check_of_not_isApplied happlied, happlied]
  simpa [compile] using hfrom {}

theorem contributions_eq (allowed : List String) (filters : List Filter) :
    contributions allowed filters =
      (filters.filter (·.isApplied allowed)).map fun f =>
        ⟨f.testedColumn, f.excludes, f.comparison⟩ := by
  rw [contributions, ← List.filterMap_eq_map, List.filterMap_filter]
  refine List.filterMap_congr fun f _ => ?_
  by_cases happlied : f.isApplied allowed = true
  · simp [contribution?, check_of_isApplied happlied, happlied]
  · simp [contribution?, check_of_not_isApplied happlied, happlied]

/-- A comparison more adds its column at the end, unless there is a group for it. -/
theorem columns_insertComparison (groups : List FilterGroup) (column : String)
    (exclude : Bool) (c : Comparison) :
    (insertComparison groups column exclude c).map (·.column) =
      if column ∈ groups.map (·.column) then groups.map (·.column)
      else groups.map (·.column) ++ [column] := by
  rcases insertComparison_cases groups column exclude c with
    ⟨before, g, after, rfl, rfl, -, hinsert⟩ | ⟨hnone, hinsert⟩
  · simp [hinsert]
  · have hnew : column ∉ groups.map (·.column) := by
      simpa using hnone
    rw [hinsert, if_neg hnew]
    simp

theorem eraseDups_concat (columns : List String) (column : String) :
    (columns ++ [column]).eraseDups =
      if column ∈ columns then columns.eraseDups else columns.eraseDups ++ [column] := by
  rw [List.eraseDups_append]
  by_cases hfound : column ∈ columns
  · simp [List.removeAll, hfound]
  · simp [List.removeAll, hfound, List.eraseDups_cons]

theorem columns_gather (cs : List Contribution) :
    (gather cs).map (·.column) = (cs.map (·.column)).eraseDups := by
  induction cs using List.reverseRecOn with
  | nil => rfl
  | append_singleton cs a ih =>
      have hlast : gather (cs ++ [a]) =
          insertComparison (gather cs) a.column a.excludes a.comparison := by
        simp [gather, gatherInto]
      simp only [hlast, columns_insertComparison, ih, List.map_append, List.map_singleton,
        eraseDups_concat, List.mem_eraseDups]

theorem onColumn_contributions (allowed : List String) (filters : List Filter)
    (column : String) (exclude : Bool) :
    onColumn column exclude (contributions allowed filters) =
      ((filters.filter (·.isApplied allowed)).filter (·.isFor column exclude)).map
        (·.comparison) := by
  rw [onColumn, contributions_eq, List.filter_map, List.map_map]
  refine congrArg (List.map _) (List.filter_congr fun f hf => ?_)
  obtain ⟨-, hcolumn, -⟩ := Filter.given_of_isApplied (List.mem_filter.mp hf).2
  simp [Filter.isFor, hcolumn]

theorem columns_compile (allowed : List String) (filters : List Filter) :
    (compile allowed filters).groups.map (·.column) =
      ((filters.filter (·.isApplied allowed)).map (·.testedColumn)).eraseDups := by
  rw [groups_compile, columns_gather, contributions_eq, List.map_map]
  rfl

/-- The groups as they can be read off the filters that are applied. -/
theorem groups_eq (allowed : List String) (filters : List Filter) :
    (compile allowed filters).groups =
      ((filters.filter (·.isApplied allowed)).map (·.testedColumn)).eraseDups.map
        (FilterGroup.ofFilters (filters.filter (·.isApplied allowed))) := by
  have hgathered := gathered_gather (contributions allowed filters)
  have hgroup : ∀ g ∈ (compile allowed filters).groups,
      FilterGroup.ofFilters (filters.filter (·.isApplied allowed)) g.column = g := by
    intro g hg
    rw [groups_compile] at hg
    have hkept := hgathered.sides g hg false
    have hdropped := hgathered.sides g hg true
    rw [onColumn_contributions] at hkept hdropped
    unfold FilterGroup.ofFilters
    rw [← hkept, ← hdropped]
    rfl
  rw [← columns_compile, List.map_map]
  exact ((List.map_congr_left hgroup).trans (List.map_id' _)).symm

/-! ## Filters that change places -/

section

variable {filters others : List Filter}

theorem filter_isApplied_of_isFor
    (hclasses : ∀ column exclude,
      others.filter (·.isFor column exclude) = filters.filter (·.isFor column exclude))
    (column : Value) (exclude : Bool) :
    (others.filter (·.isApplied allowed)).filter (·.isFor column exclude) =
      (filters.filter (·.isApplied allowed)).filter (·.isFor column exclude) := by
  rw [List.filter_comm, hclasses, List.filter_comm]

theorem groups_perm (allowed : List String) (hperm : others.Perm filters)
    (hclasses : ∀ column exclude,
      others.filter (·.isFor column exclude) = filters.filter (·.isFor column exclude)) :
    (compile allowed others).groups.Perm (compile allowed filters).groups := by
  have hgroups : FilterGroup.ofFilters (others.filter (·.isApplied allowed)) =
      FilterGroup.ofFilters (filters.filter (·.isApplied allowed)) := by
    funext column
    simp only [FilterGroup.ofFilters, filter_isApplied_of_isFor hclasses]
  have hcolumns : ((compile allowed others).groups.map (·.column)).Perm
      ((compile allowed filters).groups.map (·.column)) := by
    rw [List.perm_ext_iff_of_nodup (nodup_compile ..) (nodup_compile ..),
      columns_compile, columns_compile]
    intro column
    rw [List.mem_eraseDups, List.mem_eraseDups]
    exact ((hperm.filter _).map _).mem_iff
  rw [columns_compile, columns_compile] at hcolumns
  rw [groups_eq, groups_eq, hgroups]
  exact hcolumns.map _

theorem rejected_perm (hperm : others.Perm filters) :
    (compile allowed others).rejected.Perm (compile allowed filters).rejected := by
  rw [rejected_compile, rejected_compile]
  exact (hperm.filter _).map _

end

theorem compile_applied (allowed : List String) (filters : List Filter) :
    compile allowed (filters.filter (·.isApplied allowed)) =
      { compile allowed filters with rejected := [] } := by
  have hgroups : (compile allowed (filters.filter (·.isApplied allowed))).groups =
      (compile allowed filters).groups := by
    rw [groups_eq, groups_eq, List.filter_filter]
    simp only [Bool.and_self]
  have hrejected : (compile allowed (filters.filter (·.isApplied allowed))).rejected = [] := by
    rw [rejected_compile, List.filter_filter]
    simp
  simp only [← hgroups, ← hrejected]

/-! ## The account of a predicate -/

/-- Each filter is listed with those left out, or it adds one comparison to one side of the
one group of its column. -/
structure Accounts (allowed : List String) (filters : List Filter) (p : FilterPredicate) :
    Prop where
  rejected : p.rejected =
    (filters.filter fun f => !f.isApplied allowed).map (·.rejection allowed)
  groups : p.groups =
    ((filters.filter (·.isApplied allowed)).map (·.testedColumn)).eraseDups.map
      (FilterGroup.ofFilters (filters.filter (·.isApplied allowed)))
  given : ∀ f ∈ filters.filter (·.isApplied allowed),
    f.sqlColumn = .text f.testedColumn ∧
      f.filterOperator = .text f.comparison.operator.text
  nodup : (p.groups.map (·.column)).Nodup
  comparisons : (p.groups.flatMap (·.comparisons)).Perm
    ((filters.filter (·.isApplied allowed)).map (·.comparison))
  allowed : ∀ g ∈ p.groups, g.column ∈ allowed ∧ g.comparisons ≠ []

/-- The clauses of the condition, as they are written in it. -/
def clauses (p : FilterPredicate) : List String := p.groups.map fun g => "AND " ++ g.clause

/-- The same groups and the same filters left out, but for their order. -/
structure Rearranges (p q : FilterPredicate) : Prop where
  groups : p.groups.Perm q.groups
  rejected : p.rejected.Perm q.rejected
  text : ∃ clauses, clauses.Perm q.clauses ∧ p.text = " ".intercalate clauses

theorem accounts_compile (allowed : List String) (filters : List Filter) :
    Accounts allowed filters (compile allowed filters) := by
  have hgathered := gathered_gather (contributions allowed filters)
  constructor
  case rejected => exact rejected_compile allowed filters
  case groups => exact groups_eq allowed filters
  case given =>
      exact fun f hf => (Filter.given_of_isApplied (List.mem_filter.mp hf).2).2
  case nodup => exact nodup_compile allowed filters
  case comparisons =>
      have hall := comparisons_gather (contributions allowed filters)
      rwa [← groups_compile, contributions_eq, List.map_map] at hall
  case allowed =>
      intro g hg
      rw [groups_compile] at hg
      obtain ⟨a, ha, hcolumn⟩ :=
        (hgathered.columns g.column).mp (List.mem_map_of_mem hg)
      exact ⟨hcolumn ▸ column_of_contribution ha, hgathered.comparisons_ne_nil hg⟩

/-- Every filter is accounted for.  Those left out change nothing else; and filters on
different columns, or on different sides of one, may change places. -/
theorem compile_accounts (allowed : List String) (filters : List Filter) :
    Accounts allowed filters (compile allowed filters) ∧
    (compile allowed (filters.filter (·.isApplied allowed)) =
        { compile allowed filters with rejected := [] } ∧
      (compile allowed (filters.filter (·.isApplied allowed))).text =
        (compile allowed filters).text) ∧
    ∀ others : List Filter, others.Perm filters →
      (∀ column exclude,
        others.filter (·.isFor column exclude) =
          filters.filter (·.isFor column exclude)) →
      Rearranges (compile allowed others) (compile allowed filters) := by
  refine ⟨accounts_compile allowed filters, ⟨compile_applied allowed filters, ?_⟩, ?_⟩
  · rw [compile_applied]
    rfl
  · intro others hperm hclasses
    have hgroups := groups_perm allowed hperm hclasses
    exact ⟨hgroups, rejected_perm hperm, _, hgroups.map _, rfl⟩

/-- The filter on hosts comes first instead of last, before one that is left out. -/
theorem compile_accounts_hosts :
    let method : Filter := { column := "method", value := "GET" }
    let colour : Filter := { column := "colour", value := "red" }
    let host : Filter := { column := "host", value := "a.com", exclude := .flag true }
    let filters := [method, colour, host]
    let others := [host, method, colour]
    (others.Perm filters ∧
      ∀ column exclude,
        others.filter (·.isFor column exclude) =
          filters.filter (·.isFor column exclude)) ∧
    Rearranges (compile ["method", "host"] others) (compile ["method", "host"] filters) ∧
    (compile ["method", "host"] others).groups ≠
      (compile ["method", "host"] filters).groups := by
  intro method colour host filters others
  have hperm : others.Perm filters := (List.perm_append_singleton host [method, colour]).symm
  have hclasses : ∀ column exclude,
      others.filter (·.isFor column exclude) = filters.filter (·.isFor column exclude) := by
    intro column exclude
    by_cases hhost : column = .text "host"
    · subst hhost
      cases exclude <;> decide +kernel
    · have hnot : host.isFor column exclude = false := by
        have hother : ¬ host.sqlColumn = column := fun heq => hhost heq.symm
        simp [Filter.isFor, hother]
      simp [others, filters, List.filter_cons, hnot]
  obtain ⟨-, -, hrearranges⟩ := compile_accounts ["method", "host"] filters
  exact ⟨⟨hperm, hclasses⟩, hrearranges others hperm hclasses, by decide +kernel⟩

end FilterPredicate

end RequestBreakdown
