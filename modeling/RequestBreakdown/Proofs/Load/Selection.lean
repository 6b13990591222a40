import RequestBreakdown.Proofs.Filter.Accounting
import RequestBreakdown.Proofs.Filter.Meaning
import RequestBreakdown.Proofs.Load.Stages

/-!
# The rows that a request selects

The conditions of a request mean what the filters mean.  The totals are those
of a condition without filters, so that no row is counted that the totals leave
out.
-/

namespace RequestBreakdown

open ConditionToken

theorem ConditionToken.ComesFrom.mono {givens allowed : List String}
    {filters others : List Filter} {token : ConditionToken}
    (hfilters : ∀ f ∈ filters, f ∈ others)
    (htoken : token.ComesFrom givens allowed filters) :
    token.ComesFrom givens allowed others := by
  cases token with
  | column name =>
      obtain ⟨f, hf, hcheck⟩ := htoken
      exact ⟨f, hfilters f hf, hcheck⟩
  | literal text =>
      obtain ⟨f, hf, hcheck⟩ := htoken
      exact ⟨f, hfilters f hf, hcheck⟩
  | _ => exact htoken

namespace LoadRequest

theorem mem_of_mem_appliedFilters {b : Breakdown} {topN : Int}
    {filters : List Filter} :
    ∀ f ∈ appliedFilters b topN filters, f ∈ filters := by
  intro f hf
  unfold appliedFilters at hf
  split at hf
  · exact hf
  · exact (List.mem_filter.mp hf).1

theorem appliedFilters_eq (topN : Int) (b : Breakdown) (filters : List Filter)
    (w : TimeWindow) (stages : List SamplingStage) :
    appliedFilters b topN filters =
      if (prepared topN b filters w stages).decomposed then filters
      else Filter.notOn (prepared topN b filters w stages).column filters := by
  unfold appliedFilters prepared
  cases memberColumn? b topN filters <;> rfl

/-- A condition is read as what it was made of, whatever the filters, the
columns allowed, the time filter and the extra predicate are.  What the
condition of a request selects, the condition of its totals selects. -/
theorem condition_read :
    (∀ allowed f column c,
      FilterPredicate.check allowed f = .ok (column, c) ↔
        f.Compares allowed column c) ∧
    (∀ timeText allowed filters extra, ∃ c : Condition,
      c.IsReadFrom
        (Query.condition timeText (FilterPredicate.compile allowed filters).text
          extra)
        (Query.givenTexts timeText extra) allowed filters ∧
      ∀ truth, c.Holds truth ↔
        Query.PartsHold timeText allowed filters extra truth) ∧
    ∀ planner now topN b filters w r,
      prepareFor planner now topN b filters w = .ok r →
      ∃ c totals : Condition,
        c.IsReadFrom r.condition
          (Query.givenTexts w.condition b.extraPredicate.shown?)
          Breakdown.allowedColumns filters ∧
        (∀ truth, c.Holds truth ↔
          Query.PartsHold w.condition Breakdown.allowedColumns
            (if r.decomposed then filters else Filter.notOn r.column filters)
            b.extraPredicate.shown? truth) ∧
        totals.IsReadFrom r.totalsCondition
          (Query.givenTexts w.condition b.extraPredicate.shown?)
          Breakdown.allowedColumns [] ∧
        ∀ truth, c.Holds truth → totals.Holds truth := by
  refine ⟨fun _ _ _ _ => FilterPredicate.check_eq_ok,
    Query.exists_condition_read, ?_⟩
  intro planner now topN b filters w r hr
  obtain ⟨count, stages, n, rfl⟩ := prepareFor_eq_ok hr
  obtain ⟨c, ⟨tokens, hspell, hnames, hread⟩, hholds⟩ :=
    Query.exists_condition_read w.condition Breakdown.allowedColumns
      (appliedFilters b count filters) b.extraPredicate.shown?
  obtain ⟨totals, htotals, htotalsHold⟩ :=
    Query.exists_condition_read w.condition Breakdown.allowedColumns []
      b.extraPredicate.shown?
  refine ⟨c, totals, ⟨tokens, hspell, ?_, hread⟩, ?_, htotals, ?_⟩
  · intro token htoken
    exact (hnames token htoken).mono mem_of_mem_appliedFilters
  · rwa [appliedFilters_eq count b filters w stages] at hholds
  · intro truth hc
    obtain ⟨htime, -, hextra⟩ := (hholds truth).mp hc
    refine (htotalsHold truth).mpr ⟨htime, ?_, hextra⟩
    intro column
    simp

/-- One of two methods is kept, and no image is. -/
theorem condition_read_hosts :
    let filters : List Filter :=
      [{ column := "method", value := "GET" },
        { column := "split_part(content_type, '/', 1) || '/*'"
          value := "image/*", exclude := .flag true
          filterColumn := "content_type", filterValue := "image/%"
          filterOperator := "LIKE" },
        { column := "method", value := "POST" }]
    let w : TimeWindow := ⟨⟨0, none⟩, ⟨5, none⟩⟩
    ∃ r, prepareFor ⟨.clause, .text "requests"⟩ ⟨9, none⟩ (.int 5)
        { id := "breakdown-hosts", title := "Hosts"
          dimension := .expression "host", labelPrefixes := .list ["main--"] }
        filters w = .ok r ∧
      r.condition = w.condition ++
        " AND (method = 'GET' OR method = 'POST')" ++
        " AND content_type NOT LIKE 'image/%'" ∧
      ∃ c totals : Condition,
        c.IsReadFrom r.condition (Query.givenTexts w.condition none)
          Breakdown.allowedColumns filters ∧
        (∀ truth, c.Holds truth ↔ truth.given w.condition ∧
          (truth.comparison "method" .equals "'GET'" ∨
            truth.comparison "method" .equals "'POST'") ∧
          ¬ truth.comparison "content_type" .like "'image/%'") ∧
        totals.IsReadFrom r.totalsCondition (Query.givenTexts w.condition none)
          Breakdown.allowedColumns [] ∧
        ∀ truth, c.Holds truth → totals.Holds truth := by
  intro filters w
  have htexts : ∀ f ∈ filters, f.OfTexts := by
    simp only [filters, List.forall_mem_cons]
    exact ⟨⟨⟨_, rfl⟩, .inl rfl, ⟨_, rfl⟩, .inl rfl⟩,
      ⟨⟨_, rfl⟩, .inr ⟨_, rfl⟩, ⟨_, rfl⟩, .inr ⟨_, rfl⟩⟩,
      ⟨⟨_, rfl⟩, .inl rfl, ⟨_, rfl⟩, .inl rfl⟩, by simp⟩
  have htable : NoQuote "requests" := by decide
  have hnow : (⟨9, none⟩ : Timestamp).offset = none := rfl
  obtain ⟨count, stages, -, -, -, hprepare⟩ := exists_prepareFor .clause 5
    { id := "breakdown-hosts", title := "Hosts"
      dimension := .expression "host", labelPrefixes := .list ["main--"] }
    (w := w) htable hnow rfl rfl
  have hr := hprepare _ htexts
  have happlied : Filter.notOn (.text "host") filters = filters := by
    decide +kernel
  have hcondition : Query.condition w.condition (FilterPredicate.compile
      Breakdown.allowedColumns (Filter.notOn (.text "host") filters)).text none =
      w.condition ++ " AND (method = 'GET' OR method = 'POST')" ++
        " AND content_type NOT LIKE 'image/%'" := by
    decide +kernel
  have hgroups : (FilterPredicate.compile Breakdown.allowedColumns filters).groups =
      [⟨"method", [⟨"GET", .equals⟩, ⟨"POST", .equals⟩], []⟩,
        ⟨"content_type", [], [⟨"image/%", .like⟩]⟩] := by
    decide +kernel
  have hget : Literal.ofValue "GET" = "'GET'" := by decide +kernel
  have hpost : Literal.ofValue "POST" = "'POST'" := by decide +kernel
  have himage : Literal.ofValue "image/%" = "'image/%'" := by decide +kernel
  obtain ⟨c, totals, hread, hholds, htotals, hselects⟩ :=
    condition_read.2.2 _ _ _ _ _ _ _ hr
  refine ⟨_, hr, hcondition, c, totals, hread, ?_, htotals, hselects⟩
  intro truth
  have hmeaning : c.Holds truth ↔ Query.PartsHold w.condition
      Breakdown.allowedColumns (Filter.notOn (.text "host") filters) none truth :=
    hholds truth
  have htime : w.condition ≠ "" := by decide +kernel
  rw [hmeaning, happlied, Query.PartsHold, ← FilterPredicate.holds_groups, hgroups]
  simp [FilterGroup.Holds, Comparison.Holds, hget, hpost, himage, htime]

end LoadRequest

end RequestBreakdown
