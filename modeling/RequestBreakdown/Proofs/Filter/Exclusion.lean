import RequestBreakdown.Filter.Selection
import RequestBreakdown.Proofs.Filter.Coverage

/-!
# Leaving out the filters of a column

A breakdown is asked for without the filters that were set on its own column.
Filters that drop values only have more rows left when there are fewer of them.
Of the values kept on a tested column one is enough, though, and filters of other
columns may test the same one: then those that remain stand alone, and the rows
of the values left out are hidden unless something else keeps them.
-/

namespace RequestBreakdown

/-- What a row is tested for on a column. -/
structure Test where
  operator : FilterOperator
  literal : String
  deriving DecidableEq, Repr

def Comparison.test (c : Comparison) : Test := ⟨c.operator, Literal.ofValue c.value⟩

def Test.Holds (column : String) (truth : Truth) (t : Test) : Prop :=
  truth.comparison column t.operator t.literal

namespace FilterPredicate

variable {allowed : List String} {filters : List Filter} {exclude : Bool}
  {column : String} {t : Test} {truth : Truth}

/-- What the accepted filters have rows tested for on a column, to keep them or to
drop them. -/
def tests (allowed : List String) (filters : List Filter) (exclude : Bool)
    (column : String) : List Test :=
  (onColumn column exclude (contributions allowed filters)).map (·.test)

theorem mem_tests :
    t ∈ tests allowed filters exclude column ↔
      ∃ f ∈ filters, f.excludes = exclude ∧
        ∃ c, check allowed f = .ok (column, c) ∧ c.test = t := by
  simp only [tests, List.mem_map, mem_onColumn]
  constructor
  · rintro ⟨c, ⟨f, hf, hside, hcheck⟩, htest⟩
    exact ⟨f, hf, hside, c, hcheck, htest⟩
  · rintro ⟨f, hf, hside, c, hcheck, htest⟩
    exact ⟨c, ⟨f, hf, hside, hcheck⟩, htest⟩

theorem tests_notOn_subset {display : Value}
    (ht : t ∈ tests allowed (Filter.notOn display filters) exclude column) :
    t ∈ tests allowed filters exclude column := by
  obtain ⟨f, hf, hrest⟩ := mem_tests.mp ht
  exact mem_tests.mpr ⟨f, List.mem_of_mem_filter hf, hrest⟩

theorem filtersHold_iff_tests :
    FiltersHold allowed filters truth ↔ ∀ column,
      (tests allowed filters false column ≠ [] →
        ∃ t ∈ tests allowed filters false column, t.Holds column truth) ∧
      ∀ t ∈ tests allowed filters true column, ¬ t.Holds column truth := by
  refine forall_congr' fun column => ⟨fun ⟨hkept, hdropped⟩ => ⟨?_, ?_⟩,
    fun ⟨hkept, hdropped⟩ => ⟨?_, ?_⟩⟩
  · intro hsome
    obtain ⟨t, ht⟩ := List.exists_mem_of_ne_nil _ hsome
    obtain ⟨f, hf, hside, c, hcheck, -⟩ := mem_tests.mp ht
    obtain ⟨f, hf, hside, c, hcheck, hholds⟩ := hkept ⟨f, hf, hside, c, hcheck⟩
    exact ⟨c.test, mem_tests.mpr ⟨f, hf, hside, c, hcheck, rfl⟩, hholds⟩
  · intro t ht
    obtain ⟨f, hf, hside, c, hcheck, rfl⟩ := mem_tests.mp ht
    exact hdropped f hf hside c hcheck
  · rintro ⟨f, hf, hside, c, hcheck⟩
    have hmem := mem_tests.mpr ⟨f, hf, hside, c, hcheck, rfl⟩
    obtain ⟨t, ht, hholds⟩ := hkept (List.ne_nil_of_mem hmem)
    obtain ⟨f, hf, hside, c, hcheck, rfl⟩ := mem_tests.mp ht
    exact ⟨f, hf, hside, c, hcheck, hholds⟩
  · intro f hf hside c hcheck
    exact hdropped c.test (mem_tests.mpr ⟨f, hf, hside, c, hcheck, rfl⟩)

/-! ## What is hidden -/

/-- The filters select no row: every value kept on some column is dropped there. -/
def SelectNothing (allowed : List String) (filters : List Filter) : Prop :=
  ∃ column, tests allowed filters false column ≠ [] ∧
    ∀ t ∈ tests allowed filters false column, t ∈ tests allowed filters true column

/-- Where filters of other columns keep values of a tested column, they keep those
that the filters of the column itself do, as far as these are not dropped. -/
def KeptByOthers (allowed : List String) (filters : List Filter)
    (display : Value) : Prop :=
  ∀ column,
    tests allowed (Filter.notOn display filters) false column ≠ [] →
      ∀ t ∈ tests allowed filters false column,
        t ∈ tests allowed (Filter.notOn display filters) false column ∨
          t ∈ tests allowed filters true column

/-- The row of which one comparison holds on a column, and on all others whatever is
not dropped. -/
def rowOf (allowed : List String) (filters : List Filter) (column : String)
    (t : Test) : Truth where
  given := fun _ => True
  comparison := fun other operator literal =>
    (other = column → (⟨operator, literal⟩ : Test) = t) ∧
      (⟨operator, literal⟩ : Test) ∉ tests allowed filters true other

theorem filtersHold_rowOf (hsome : ¬ SelectNothing allowed filters)
    (hkept : t ∈ tests allowed filters false column)
    (hnot : t ∉ tests allowed filters true column) :
    FiltersHold allowed filters (rowOf allowed filters column t) := by
  rw [filtersHold_iff_tests]
  intro other
  constructor
  · intro hkeeps
    by_cases heq : other = column
    · subst heq
      exact ⟨t, hkept, fun _ => rfl, hnot⟩
    · have hfree : ∃ u ∈ tests allowed filters false other,
          u ∉ tests allowed filters true other := by
        by_contra hall
        push Not at hall
        exact hsome ⟨other, hkeeps, hall⟩
      obtain ⟨u, hu, hfree⟩ := hfree
      exact ⟨u, hu, fun hfalse => absurd hfalse heq, hfree⟩
  · exact fun u hu hholds => hholds.2 hu

/-- Filters that are left out leave no row out that all of them select, unless others
keep values of the same tested column and not those. -/
theorem filtersHold_notOn_iff {display : Value} :
    (∀ truth, FiltersHold allowed filters truth →
        FiltersHold allowed (Filter.notOn display filters) truth) ↔
      SelectNothing allowed filters ∨ KeptByOthers allowed filters display := by
  constructor
  · intro hkeeps
    by_contra hneither
    obtain ⟨hsome, hhidden⟩ := not_or.mp hneither
    unfold KeptByOthers at hhidden
    push Not at hhidden
    obtain ⟨column, hothers, t, hkept, hmissing, hnot⟩ := hhidden
    have hrow := hkeeps _ (filtersHold_rowOf hsome hkept hnot)
    obtain ⟨u, hu, hholds⟩ := (filtersHold_iff_tests.mp hrow column).1 hothers
    have heq : u = t := hholds.1 rfl
    exact hmissing (heq ▸ hu)
  · rintro hcases truth hholds
    rw [filtersHold_iff_tests] at hholds ⊢
    intro column
    refine ⟨fun hothers => ?_, fun u hu => ?_⟩
    · obtain ⟨u, hu⟩ := List.exists_mem_of_ne_nil _ hothers
      obtain ⟨t, hkept, htrue⟩ :=
        (hholds column).1 (List.ne_nil_of_mem (tests_notOn_subset hu))
      rcases hcases with ⟨other, hkeeps, hall⟩ | hkeptByOthers
      · obtain ⟨v, hv, hheld⟩ := (hholds other).1 hkeeps
        exact absurd hheld ((hholds other).2 v (hall v hv))
      · rcases hkeptByOthers column hothers t hkept with hmem | hdropped
        · exact ⟨t, hmem, htrue⟩
        · exact absurd htrue ((hholds column).2 t hdropped)
    · exact (hholds column).2 u (tests_notOn_subset hu)

end FilterPredicate

/-- The condition is what the predicate says that leaves out the filters of a
column. -/
def Condition.IsPredicateExcluding (c : Condition) (allowed : List String)
    (filters : List Filter) (display : Value) : Prop :=
  c.IsReadFrom
    (Query.condition ""
      (FilterPredicate.compileExcluding allowed filters display).text none)
    (Query.givenTexts "" none) allowed (Filter.notOn display filters)

namespace FilterPredicate

open ConditionToken

theorem isPredicateOf_of_read {allowed : List String} {filters : List Filter}
    {c : Condition}
    (hspell : spell (Query.conditionTokens "" (compile allowed filters).groups none) =
      Query.condition "" (compile allowed filters).text none)
    (hread : Condition.read?
      (Query.conditionTokens "" (compile allowed filters).groups none) = some c) :
    c.IsPredicateOf allowed filters :=
  ⟨_, hspell, Query.comesFrom_conditionTokens _ _ _ _, hread⟩

/-- Leaving out the filters of a column hides no row that all filters select, just in
case the others, where they keep values of a tested column, keep there all that
is left out, but for what is dropped; or the filters select no row at all. -/
theorem compileExcluding_keeps_iff (allowed : List String) (filters : List Filter)
    (display : Value) :
    ∃ c d : Condition,
      c.IsPredicateOf allowed filters ∧
      d.IsPredicateExcluding allowed filters display ∧
      ((∀ truth, c.Holds truth → d.Holds truth) ↔
        SelectNothing allowed filters ∨ KeptByOthers allowed filters display) := by
  obtain ⟨c, hc, hcholds⟩ := exists_isPredicateOf allowed filters
  obtain ⟨d, hd, hdholds⟩ :=
    exists_isPredicateOf allowed (Filter.notOn display filters)
  refine ⟨c, d, hc, hd, ?_⟩
  rw [← filtersHold_notOn_iff]
  exact forall_congr' fun truth => by
    rw [hcholds, hdholds, holds_groups, holds_groups]

/-- With a family and a type of another family, the type is not among the types
that are shown for its own breakdown. -/
theorem compileExcluding_hides_type :
    let families : Value := "split_part(content_type, '/', 1) || '/*'"
    let filters : List Filter :=
      [{ column := families, value := "image/*", filterColumn := "content_type"
         filterValue := "image/%", filterOperator := "LIKE" },
       { column := "content_type", value := "text/html" }]
    let c : Condition := .and .always
      (.or (.comparison "content_type" .like false "'image/%'")
        (.comparison "content_type" .equals false "'text/html'"))
    let d : Condition := .and .always
      (.comparison "content_type" .like false "'image/%'")
    (FilterSelection.ofNames [.list ["content-type-families", "image/*"],
        .list ["content-types", "text/html"]] [] (.int 10)).toOption.map (·.filters) =
      some filters ∧
    c.IsPredicateOf Breakdown.allowedColumns filters ∧
      d.IsPredicateExcluding Breakdown.allowedColumns filters "content_type" ∧
      ∃ truth, c.Holds truth ∧ ¬ d.Holds truth := by
  intro families filters c d
  have hall : c.IsPredicateOf Breakdown.allowedColumns filters :=
    isPredicateOf_of_read (by decide +kernel) (by decide +kernel)
  have hothers : d.IsPredicateOf Breakdown.allowedColumns
      (Filter.notOn "content_type" filters) :=
    isPredicateOf_of_read (by decide +kernel) (by decide +kernel)
  have hother : ¬ "'image/%'" = "'text/html'" := by decide
  refine ⟨by decide +kernel, hall, hothers,
    ⟨fun _ => True, fun _ _ literal => literal = "'text/html'"⟩, ?_, ?_⟩
  · exact ⟨trivial, .inr rfl⟩
  · rintro ⟨-, hholds⟩
    exact hother hholds

end FilterPredicate

end RequestBreakdown
