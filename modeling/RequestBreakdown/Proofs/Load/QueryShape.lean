import RequestBreakdown.Proofs.Filter.Positions
import RequestBreakdown.Proofs.Load.Preparation
import RequestBreakdown.Proofs.Load.Stages

/-!
# The shape of the queries of a load

Two lists of filters that differ in their values only give queries of the same
shape: the same text outside of literals, and the same literals but for those
that hold the values, each at the place of its filter.  Whatever a value is, it
is read back as it was, and nothing else of the query depends on it.
-/

namespace RequestBreakdown

open Lexeme

namespace Breakdown

theorem closed_logColumns :
    ∀ column ∈ LogColumn.expressions, Closed column.toList := by
  decide +kernel

theorem closed_allowedColumns :
    ∀ column ∈ allowedColumns, Closed column.toList := by
  intro column hcolumn
  rcases List.mem_append.mp hcolumn with hlog | hshown
  · exact closed_logColumns column hlog
  · obtain ⟨value, hvalue, htext⟩ := List.mem_filterMap.mp hshown
    obtain ⟨b, hb, hmem⟩ := List.mem_flatMap.mp hvalue
    have hdisplay : value.display = column := by
      cases value <;> simp_all [Value.text?, Value.display]
    rw [← hdisplay]
    unfold filterableColumns at hmem
    simp only [List.mem_append, Option.mem_toList] at hmem
    rcases hmem with (hdimension | hfilter) | hraw
    · cases hkind : b.dimension with
      | expression shown =>
          rw [hkind] at hdimension
          have hclosed := closed_column hb 0
          rw [List.mem_singleton.mp hdimension]
          simpa [Breakdown.column, Dimension.resolve, hkind] using hclosed
      | ranges kind name =>
          rw [hkind] at hdimension
          obtain ⟨n, -, rfl⟩ := List.mem_map.mp hdimension
          exact closed_column hb n
    · have hshown : b.filterColumn.shown? = some value.display := by
        simp [Value.shown?, hfilter]
      exact closed_shown hb (by simp [texts]) hshown
    · have hshown : b.rawColumn.shown? = some value.display := by
        simp [Value.shown?, hraw]
      exact closed_shown hb (by simp [texts]) hshown

end Breakdown

namespace LoadRequest

variable {u v : Nat → String} {order : List Nat}

/-- A request whose parts other than the filters leave no literal open. -/
structure WellQuoted (r : LoadRequest) : Prop where
  breakdown : r.breakdown ∈ Breakdown.all
  column : Closed r.column.display.toList
  totals : r.totalsCondition ≠ "" ∧ Closed r.totalsCondition.toList
  stages : ∀ stage ∈ r.stages, stage.Plain

/-- How often the condition stands in the query of a stage. -/
def occurrences (r : LoadRequest) (stage : SamplingStage) (isLast : Bool)
    (order : List Nat) : List Nat :=
  if r.isApproximate stage isLast then order ++ order else order

theorem wellQuoted_aggregations {r : LoadRequest} (hr : r.WellQuoted)
    (modes : CountingModes) (stage : SamplingStage) :
    ∀ a ∈ r.aggregations modes stage, a.WellQuoted := by
  apply Aggregation.wellQuoted_forBreakdown
  intro text htext
  exact Breakdown.closed_shown hr.breakdown (by simp [Breakdown.texts]) htext

theorem parallel_bucketedQuery {r : LoadRequest} (hr : r.WellQuoted)
    {other : String} {stage : SamplingStage} (hstage : stage.Plain)
    (modes : CountingModes)
    (hcondition : Parallel u v order r.condition.toList other.toList) :
    (r.bucketedQuery? modes stage = none ∧
      { r with condition := other }.bucketedQuery? modes stage = none) ∨
    ∃ query same, r.bucketedQuery? modes stage = some query ∧
      { r with condition := other }.bucketedQuery? modes stage = some same ∧
      Parallel u v order query.toList same.toList := by
  have haggregations := wellQuoted_aggregations hr modes stage
  unfold bucketedQuery?
  cases hdimension : r.breakdown.dimension with
  | expression value => exact .inl ⟨rfl, rfl⟩
  | ranges kind name =>
      cases hraw : r.breakdown.rawColumn.shown? with
      | none => exact .inl ⟨rfl, rfl⟩
      | some rawColumn =>
          by_cases hmembers : r.decomposed = true
          · left
            simp [hmembers]
          · right
            have hname : NoQuote Query.bucketValueName := by decide
            have hbucket := kind.closed_expression r.rangeCount hname
            have hclosed := Breakdown.closed_shown hr.breakdown
              (by simp [Breakdown.texts]) hraw
            refine ⟨_, _, if_neg hmembers, if_neg hmembers, ?_⟩
            have horderBy : ∀ text, r.breakdown.orderBy.shown? = some text →
                Closed text.toList := fun text htext =>
              Breakdown.closed_shown hr.breakdown (by simp [Breakdown.texts])
                htext
            exact Query.parallel_bucketed r.topN hbucket hclosed haggregations
              hstage horderBy hcondition

theorem parallel_stageQuery {r : LoadRequest} (hr : r.WellQuoted)
    {other : String} {stage : SamplingStage} (hstage : stage.Plain)
    (modes : CountingModes) (isLast : Bool)
    (hcondition : Parallel u v order r.condition.toList other.toList) :
    Parallel u v (r.occurrences stage isLast order)
      (r.stageQuery modes stage isLast).toList
      ({ r with condition := other }.stageQuery modes stage isLast).toList := by
  have haggregations := wellQuoted_aggregations hr modes stage
  have hsame : { r with condition := other }.isApproximate stage isLast =
      r.isApproximate stage isLast := rfl
  unfold stageQuery occurrences
  rw [hsame]
  by_cases happrox : r.isApproximate stage isLast = true
  · rw [if_pos happrox, if_pos happrox, if_pos happrox]
    exact Query.parallel_approximate r.topN hr.column haggregations
      hstage.source hr.totals.1 hr.totals.2 hcondition
  · rw [if_neg happrox, if_neg happrox, if_neg happrox]
    rcases parallel_bucketedQuery hr hstage modes hcondition with
      ⟨hnone, hnone'⟩ | ⟨query, same, hquery, hsame, hparallel⟩
    · rw [hnone, hnone', Option.getD_none, Option.getD_none]
      refine Query.parallel_breakdown r.topN hr.column haggregations hstage ?_
        hcondition
      intro text htext
      split at htext
      · exact absurd htext (by simp)
      · exact Breakdown.closed_shown hr.breakdown
          (by simp [Breakdown.texts]) htext
    · rw [hquery, hsame, Option.getD_some, Option.getD_some]
      exact hparallel

/-! ## The filters that are applied -/

def appliedEntries (b : Breakdown) (topN : Int) (filters : List Filter) :
    List (Filter × Nat) :=
  filters.zipIdx.filter fun entry =>
    (memberColumn? b topN filters).isSome || !entry.1.isOn (b.column topN)

/-- The positions of the filters whose values come into a query. -/
def usedPositions (b : Breakdown) (topN : Int) (filters : List Filter) :
    List Nat :=
  ((appliedEntries b topN filters).filter fun entry =>
    (FilterPredicate.contribution? Breakdown.allowedColumns
      entry.1).isSome).map (·.2)

theorem map_appliedEntries (b : Breakdown) (topN : Int)
    (filters : List Filter) :
    (appliedEntries b topN filters).map (·.1) =
      appliedFilters b topN filters := by
  have hall : filters.zipIdx.map (·.1) = filters := List.zipIdx_map_fst 0 filters
  unfold appliedEntries appliedFilters
  by_cases hmembers : (memberColumn? b topN filters).isSome = true
  · simp [hmembers, hall]
  · have hfilter := List.filter_map (f := Prod.fst) (l := filters.zipIdx)
      (p := fun f : Filter => !f.isOn (b.column topN))
    rw [hall] at hfilter
    simp [hmembers, Filter.notOn, hfilter, Function.comp_def]

theorem memberColumn?_numberAll (b : Breakdown) (topN : Int)
    (filters : List Filter) :
    memberColumn? b topN (Filter.numberAll filters) =
      memberColumn? b topN filters := by
  have hany : (Filter.numberAll filters).any (·.isOn (b.column topN)) =
      filters.any (·.isOn (b.column topN)) := by
    have hall : filters.zipIdx.map (·.1) = filters :=
      List.zipIdx_map_fst 0 filters
    conv_rhs => rw [← hall]
    rw [Filter.numberAll, List.any_map, List.any_map]
    rfl
  unfold memberColumn?
  rw [hany]

theorem map_numbered_appliedEntries (b : Breakdown) (topN : Int)
    (filters : List Filter) :
    (appliedEntries b topN filters).map (fun e => e.1.numbered e.2) =
      (Filter.numberAll filters).filter fun f =>
        (memberColumn? b topN (Filter.numberAll filters)).isSome ||
          !f.isOn (b.column topN) := by
  rw [memberColumn?_numberAll, Filter.numberAll, List.filter_map]
  rfl

def placed (b : Breakdown) (topN : Int) (filters : List Filter) :
    List Contribution :=
  FilterPredicate.contributions Breakdown.allowedColumns
    ((appliedEntries b topN filters).map fun e => e.1.numbered e.2)

theorem placed_eq {b : Breakdown} {topN : Int} {filters others : List Filter}
    (hframe : filters.map Filter.frame = others.map Filter.frame) :
    placed b topN filters = placed b topN others := by
  unfold placed
  rw [map_numbered_appliedEntries, map_numbered_appliedEntries,
    Filter.numberAll_eq hframe]

/-- The positions in the order in which their values come into a condition. -/
def placedOrder (b : Breakdown) (topN : Int) (filters : List Filter) :
    List Nat :=
  (FilterPredicate.gather (placed b topN filters)).flatMap (·.positions)

/-- The value of every filter used comes into a condition once. -/
theorem placedOrder_perm (b : Breakdown) (topN : Int) (filters : List Filter) :
    (placedOrder b topN filters).Perm (usedPositions b topN filters) := by
  have hgather := (FilterPredicate.comparisons_gather
    (placed b topN filters)).map (·.position)
  have hleft : ((FilterPredicate.gather (placed b topN filters)).flatMap
      FilterGroup.comparisons).map (·.position) =
        placedOrder b topN filters := by
    rw [List.map_flatMap]
    rfl
  have hright : ((placed b topN filters).map (·.comparison)).map (·.position) =
      usedPositions b topN filters := by
    unfold placed usedPositions FilterPredicate.contributions
    induction appliedEntries b topN filters with
    | nil => rfl
    | cons entry rest ih =>
        have hentry := FilterPredicate.position_contribution?
          Breakdown.allowedColumns entry.1 entry.2
        rw [List.map_cons, List.filterMap_cons, List.filter_cons]
        cases hnumbered : FilterPredicate.contribution?
            Breakdown.allowedColumns (entry.1.numbered entry.2) with
        | none =>
            rw [hnumbered] at hentry
            by_cases haccepted : (FilterPredicate.contribution?
              Breakdown.allowedColumns entry.1).isSome = true
            · simp [haccepted] at hentry
            · rw [if_neg haccepted]
              exact ih
        | some a =>
            rw [hnumbered] at hentry
            by_cases haccepted : (FilterPredicate.contribution?
              Breakdown.allowedColumns entry.1).isSome = true
            · rw [if_pos haccepted] at hentry ⊢
              have hposition : a.comparison.position = entry.2 := by
                simpa using hentry
              simp only [List.map_cons, hposition]
              rw [ih]
            · simp [haccepted] at hentry
  rwa [hleft, hright] at hgather

theorem groups_compile_applied (b : Breakdown) (topN : Int)
    {filters : List Filter} (hfilters : ∀ f ∈ filters, f.OfTexts) :
    (FilterPredicate.compile Breakdown.allowedColumns
      (appliedFilters b topN filters)).groups =
      (FilterPredicate.gather (placed b topN filters)).map
        (·.put (Filter.testedText filters)) := by
  have hvalues : ∀ entry ∈ appliedEntries b topN filters,
      entry.1.sqlValue = .text (Filter.testedText filters entry.2) :=
    fun entry hentry => Filter.sqlValue_eq_testedText hfilters entry
      (List.mem_filter.mp hentry).1
  rw [FilterPredicate.groups_compile, ← map_appliedEntries,
    FilterPredicate.contributions_eq_put _ _ hvalues,
    FilterPredicate.gather_put]
  rfl

theorem closed_placed (b : Breakdown) (topN : Int) (filters : List Filter) :
    ∀ g ∈ FilterPredicate.gather (placed b topN filters),
      Closed g.column.toList := by
  intro g hg
  have hgathered := FilterPredicate.gathered_gather (placed b topN filters)
  obtain ⟨a, ha, hcolumn⟩ :=
    (hgathered.columns g.column).mp (List.mem_map_of_mem hg)
  rw [← hcolumn]
  exact Breakdown.closed_allowedColumns a.column
    (FilterPredicate.column_of_contribution ha)

theorem parallel_predicate (b : Breakdown) (topN : Int)
    {filters others : List Filter}
    (hframe : filters.map Filter.frame = others.map Filter.frame)
    (hfilters : ∀ f ∈ filters, f.OfTexts) (hothers : ∀ f ∈ others, f.OfTexts) :
    Parallel (Filter.testedText filters) (Filter.testedText others)
      (placedOrder b topN filters)
      (FilterPredicate.compile Breakdown.allowedColumns
        (appliedFilters b topN filters)).text.toList
      (FilterPredicate.compile Breakdown.allowedColumns
        (appliedFilters b topN others)).text.toList := by
  have hgroups := groups_compile_applied b topN hfilters
  have hothers' := groups_compile_applied b topN hothers
  rw [← placed_eq hframe] at hothers'
  have hparallel := FilterPredicate.parallel_text
    (u := Filter.testedText filters) (v := Filter.testedText others)
    (closed_placed b topN filters) [] []
  simp only [FilterPredicate.text, hgroups, hothers'] at hparallel ⊢
  exact hparallel

/-! ## Requests of the same shape -/

theorem closed_column {b : Breakdown} (hb : b ∈ Breakdown.all) (topN : Int)
    (filters : List Filter) :
    Closed ((memberColumn? b topN filters).getD (b.column topN)).display.toList := by
  cases hmembers : memberColumn? b topN filters with
  | none => exact Breakdown.closed_column hb topN
  | some column =>
      unfold memberColumn? at hmembers
      split at hmembers
      · have hshown : b.filterColumn.shown? = some column.display := by
          simp [Value.shown?, hmembers]
        exact Breakdown.closed_shown hb (by simp [Breakdown.texts]) hshown
      · exact absurd hmembers (by simp)

theorem closed_extraPredicate {b : Breakdown} (hb : b ∈ Breakdown.all) :
    ∀ text, b.extraPredicate.shown? = some text → Closed text.toList :=
  fun _ htext => Breakdown.closed_shown hb (by simp [Breakdown.texts]) htext

theorem wellQuoted_prepared {b : Breakdown} (hb : b ∈ Breakdown.all)
    (topN : Int) (filters : List Filter) (w : TimeWindow)
    {stages : List SamplingStage} (hstages : ∀ stage ∈ stages, stage.Plain) :
    (prepared topN b filters w stages).WellQuoted := by
  have htime := w.closed_condition
  have hnothing : Parallel (fun _ => "") (fun _ => "") [] "".toList "".toList :=
    .refl (by decide)
  have htotals := Query.parallel_condition htime (closed_extraPredicate hb)
    hnothing
  exact ⟨hb, closed_column hb topN filters,
    ⟨Query.condition_ne_empty _ _ _, htotals.closedLeft⟩, hstages⟩

theorem prepared_eq (topN : Int) {b : Breakdown} {filters others : List Filter}
    (hframe : filters.map Filter.frame = others.map Filter.frame)
    (w : TimeWindow) (stages : List SamplingStage) :
    prepared topN b others w stages =
      { prepared topN b filters w stages with
        condition := (prepared topN b others w stages).condition } := by
  have hmembers : memberColumn? b topN others =
      memberColumn? b topN filters := by
    rw [← memberColumn?_numberAll, ← Filter.numberAll_eq hframe,
      memberColumn?_numberAll]
  unfold prepared
  rw [hmembers]

theorem usedPositions_of_rangeCount {b : Breakdown} {topN count : Int}
    (hcount : b.dimension.rangeCount (.int topN) = .ok count)
    (filters : List Filter) :
    usedPositions b count filters = usedPositions b topN filters := by
  unfold usedPositions appliedEntries memberColumn?
  rw [column_of_rangeCount hcount]

/-- Whatever texts the filters test for, the queries for a breakdown of the
catalog have the same skeleton.  The literals that hold the tested texts stand
at the same places, once for every filter used and once more in an approximate
query, and are read as just these texts; all other literals are the same. -/
theorem stageQuery_parallel {mode : SamplingMode} {table : String}
    {now : Timestamp} {topN : Int} {b : Breakdown}
    {filters others : List Filter} {w : TimeWindow}
    (hb : b ∈ Breakdown.all) (htable : NoQuote table)
    (hnow : now.offset = none) (hstart : w.start.offset = none)
    (hstop : w.stop.offset = none)
    (hframe : filters.map Filter.frame = others.map Filter.frame)
    (hfilters : ∀ f ∈ filters, f.OfTexts) (hothers : ∀ f ∈ others, f.OfTexts) :
    ∃ r s order,
      prepareFor ⟨mode, .text table⟩ now (.int topN) b filters w = .ok r ∧
      prepareFor ⟨mode, .text table⟩ now (.int topN) b others w = .ok s ∧
      r.stages ≠ [] ∧ s.stages = r.stages ∧
      order.Perm (usedPositions b topN filters) ∧
      ∀ modes, ∀ stage ∈ r.stages, ∀ isLast,
        skeleton (r.stageQuery modes stage isLast) =
          skeleton (s.stageQuery modes stage isLast) ∧
        Parallel (Filter.testedText filters) (Filter.testedText others)
          (r.occurrences stage isLast order)
          (r.stageQuery modes stage isLast).toList
          (s.stageQuery modes stage isLast).toList := by
  obtain ⟨count, stages, hcount, hsome, hplain, hprepareFor⟩ :=
    exists_prepareFor mode topN b htable hnow hstart hstop
  have hwell : WellQuoted { prepared count b filters w stages with topN } := by
    have hbase := wellQuoted_prepared hb count filters w hplain
    exact ⟨hbase.breakdown, hbase.column, hbase.totals, hbase.stages⟩
  have hcondition := Query.parallel_condition w.closed_condition
    (closed_extraPredicate hb)
    (parallel_predicate b count hframe hfilters hothers)
  have horder := placedOrder_perm b count filters
  rw [usedPositions_of_rangeCount hcount] at horder
  refine ⟨_, _, placedOrder b count filters, hprepareFor filters hfilters,
    hprepareFor others hothers, hsome, rfl, horder, ?_⟩
  intro modes stage hstage isLast
  have hparallel := parallel_stageQuery hwell (hplain stage hstage) modes isLast
    hcondition
  have hsame := prepared_eq count (b := b) hframe w stages
  rw [hsame]
  exact ⟨hparallel.skeleton_eq, hparallel⟩

/-- A value that would end its literal changes nothing but its literal. -/
theorem stageQuery_parallel_hosts :
    ∃ r s order,
      prepareFor ⟨.clause, .text "requests"⟩ ⟨9, none⟩ (.int 5)
        { id := "breakdown-hosts", title := "Hosts"
          dimension := .expression "host", labelPrefixes := .list ["main--"] }
        [{ column := "method", value := "GET" }]
        ⟨⟨0, none⟩, ⟨5, none⟩⟩ = .ok r ∧
      prepareFor ⟨.clause, .text "requests"⟩ ⟨9, none⟩ (.int 5)
        { id := "breakdown-hosts", title := "Hosts"
          dimension := .expression "host", labelPrefixes := .list ["main--"] }
        [{ column := "method", value := "' OR '#LIMIT#' = '" }]
        ⟨⟨0, none⟩, ⟨5, none⟩⟩ = .ok s ∧
      r.stages ≠ [] ∧ s.stages = r.stages ∧
      order.Perm [0] ∧
      ∀ modes, ∀ stage ∈ r.stages, ∀ isLast,
        skeleton (r.stageQuery modes stage isLast) =
          skeleton (s.stageQuery modes stage isLast) ∧
        Parallel (Filter.testedText [{ column := "method", value := "GET" }])
          (Filter.testedText
            [{ column := "method", value := "' OR '#LIMIT#' = '" }])
          (r.occurrences stage isLast order)
          (r.stageQuery modes stage isLast).toList
          (s.stageQuery modes stage isLast).toList := by
  have htexts : ∀ value : String, ∀ f ∈
      [({ column := "method", value := .text value } : Filter)], f.OfTexts := by
    intro value f hf
    rw [List.mem_singleton.mp hf]
    exact ⟨⟨_, rfl⟩, .inl rfl, ⟨_, rfl⟩, .inl rfl⟩
  exact stageQuery_parallel (.tail _ (.head _)) (by decide) rfl rfl rfl rfl
    (htexts _) (htexts _)

end LoadRequest

end RequestBreakdown
