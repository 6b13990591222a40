import RequestBreakdown.Load.Request
import RequestBreakdown.Proofs.Fault

/-!
# What is prepared

A request can be prepared when the tested columns are names, the times of the
window can be subtracted and there is a plan, and then it is put together from
the filters that are applied.
-/

namespace RequestBreakdown

namespace FilterPredicate

theorem ofFilters_eq_ok {allowed : List String} {filters : List Filter}
    {p : FilterPredicate} :
    ofFilters allowed filters = .ok p ↔
      (∀ f ∈ filters, ∃ name, f.sqlColumn.asName = .ok name) ∧
        p = compile allowed filters := by
  have hnames : ∀ done, (filters.forM fun f =>
      discard f.sqlColumn.asName : Except Fault Unit) = .ok done ↔
        ∀ f ∈ filters, ∃ name, f.sqlColumn.asName = .ok name := by
    intro done
    induction filters with
    | nil => simp [pure, Except.pure]
    | cons f rest ih =>
        rw [List.forM, bind_eq_ok, List.forall_mem_cons, ← ih]
        constructor
        · rintro ⟨first, hname, hrest⟩
          exact ⟨discard_eq_ok.mp hname, hrest⟩
        · rintro ⟨hname, hrest⟩
          exact ⟨(), discard_eq_ok.mpr hname, hrest⟩
  unfold ofFilters
  rw [bind_eq_ok]
  constructor
  · rintro ⟨done, hdone, hp⟩
    exact ⟨(hnames done).mp hdone, (Except.ok.inj hp).symm⟩
  · rintro ⟨hall, rfl⟩
    exact ⟨(), (hnames ()).mpr hall, rfl⟩

end FilterPredicate

namespace LoadRequest

/-- The filters that a request applies: all of them where a family is taken
apart, else those on other columns. -/
def appliedFilters (b : Breakdown) (topN : Int) (filters : List Filter) :
    List Filter :=
  if (memberColumn? b topN filters).isSome then filters
  else Filter.notOn (b.column topN) filters

def prepared (topN : Int) (b : Breakdown) (filters : List Filter)
    (w : TimeWindow) (stages : List SamplingStage) : LoadRequest where
  breakdown := b
  column := (memberColumn? b topN filters).getD (b.column topN)
  decomposed := (memberColumn? b topN filters).isSome
  condition := Query.condition w.condition
    (FilterPredicate.compile Breakdown.allowedColumns
      (appliedFilters b topN filters)).text b.extraPredicate.shown?
  totalsCondition := Query.condition w.condition "" b.extraPredicate.shown?
  topN
  stages

theorem prepare_eq_ok {planner : SamplingPlanner} {now : Timestamp} {topN : Int}
    {b : Breakdown} {filters : List Filter} {w : TimeWindow} {r : LoadRequest} :
    prepare planner now topN b filters w = .ok r ↔
      (∀ f ∈ appliedFilters b topN filters,
        ∃ name, f.sqlColumn.asName = .ok name) ∧
      ∃ age period stages, w.ageMillis now = .ok age ∧
        w.periodMillis = .ok period ∧
        planner.plan b.hasManyGroups (.int period) (some (.int age)) =
          .ok stages ∧
        r = prepared topN b filters w stages := by
  unfold prepare
  simp only [bind_eq_ok, FilterPredicate.ofFilters_eq_ok]
  constructor
  · rintro ⟨p, ⟨hnames, rfl⟩, age, hage, period, hperiod, stages, hplan, hr⟩
    exact ⟨hnames, age, period, stages, hage, hperiod, hplan,
      (Except.ok.inj hr).symm⟩
  · rintro ⟨hnames, age, period, stages, hage, hperiod, hplan, rfl⟩
    exact ⟨_, ⟨hnames, rfl⟩, age, hage, period, hperiod, stages, hplan, rfl⟩

end LoadRequest

end RequestBreakdown
