import RequestBreakdown.Proofs.Filter.Positions
import RequestBreakdown.Proofs.Load.Preparation
import RequestBreakdown.Proofs.Sql.Statement

/-!
# The stages of a plan

The rates that a plan can have are those of the ladder, and each of them has a
table ending, a multiplier and a percentage.  A plan over a named table never
fails, and no part of it has a quote unless the name of the table has one.
-/

namespace RequestBreakdown

namespace SampleRate

theorem ceiling_mem (age : Number) : ceiling age ∈ ladder := by
  unfold ceiling ladder
  split
  · simp
  · split <;> simp

end SampleRate

namespace SamplingPlanner

theorem rates_subset (highCardinality : Bool) (period : Number)
    (age : Option Number) :
    ∀ rate ∈ rates highCardinality period age, rate ∈ SampleRate.ladder := by
  intro rate hrate
  unfold rates at hrate
  simp only at hrate
  split at hrate
  · rw [List.mem_singleton.mp hrate]
    exact SampleRate.ceiling_mem _
  · exact (List.mem_filter.mp hrate).1

theorem rates_ne_nil (highCardinality : Bool) (period : Number)
    (age : Option Number) : rates highCardinality period age ≠ [] := by
  have hall : ∀ ceiling ∈ SampleRate.ladder,
      SampleRate.ladder.filter (·.le ceiling) ≠ [] := by
    decide +kernel
  unfold rates
  simp only
  split
  · simp
  · exact hall _ (SampleRate.ceiling_mem _)

private theorem exists_of_any {α : Type} {x : Except Fault α} {p : α → Bool}
    (h : x.toOption.any p = true) : ∃ a, x = .ok a ∧ p a = true := by
  cases x with
  | error fault => simp [Except.toOption] at h
  | ok a => exact ⟨a, rfl, by simpa [Except.toOption] using h⟩

private theorem ladder_facts : ∀ rate ∈ SampleRate.ladder,
    (SampleRate.multiplier (.real rate)).toOption.any (fun _ => true) = true ∧
      (SampleRate.tableSuffix? (.real rate)).any (fun s => NoQuote s) = true ∧
      (SampleRate.percentText (.real rate)).toOption.any
        (fun s => NoQuote s) = true := by
  decide +kernel

section Stages

variable {table ending percent : String} {rate : Binary64} {multiplier : Int}

theorem stage_tables (hmultiplier : SampleRate.multiplier (.real rate) = .ok multiplier)
    (hending : SampleRate.tableSuffix? (.real rate) = some ending) :
    stage ⟨.tables, .text table⟩ (.real rate) =
      .ok { rate := .real rate, multiplier, source := .text (table ++ ending) } := by
  simp only [stage, hmultiplier, hending]
  rfl

theorem stage_clause (hmultiplier : SampleRate.multiplier (.real rate) = .ok multiplier)
    (hpercent : SampleRate.percentText (.real rate) = .ok percent) :
    stage ⟨.clause, .text table⟩ (.real rate) =
      .ok { rate := .real rate, multiplier, source := .text table
            clause := if (Number.int 1).le (.real rate) then ""
              else "TABLESAMPLE " ++ percent ++ "%" } := by
  by_cases hfull : (Number.int 1).le (.real rate) = true
  · simp only [stage, hmultiplier, if_pos hfull]
    rfl
  · simp only [stage, hmultiplier, hpercent, if_neg hfull]
    rfl

end Stages

theorem exists_stage (mode : SamplingMode) {table : String} {rate : Binary64}
    (htable : NoQuote table) (hrate : rate ∈ SampleRate.ladder) :
    ∃ found, stage ⟨mode, .text table⟩ (.real rate) = .ok found ∧
      found.Plain := by
  obtain ⟨hmultiplier, hsuffix, hpercent⟩ := ladder_facts rate hrate
  obtain ⟨multiplier, hmultiplier, -⟩ := exists_of_any hmultiplier
  obtain ⟨percent, hpercent, hdigits⟩ := exists_of_any hpercent
  obtain ⟨ending, hending, hletters⟩ := (Option.any_eq_true _ _).mp hsuffix
  have hplain : NoQuote "" := by decide
  cases mode with
  | tables =>
      have hname : NoQuote (table ++ ending) :=
        noQuote_append.mpr ⟨htable, of_decide_eq_true hletters⟩
      exact ⟨_, stage_tables hmultiplier hending, hname, hplain⟩
  | clause =>
      have hclause : NoQuote ("TABLESAMPLE " ++ percent ++ "%") := by
        simp only [noQuote_append]
        exact ⟨⟨by decide, of_decide_eq_true hdigits⟩, by decide⟩
      refine ⟨_, stage_clause hmultiplier hpercent, htable, ?_⟩
      dsimp only
      split
      · exact hplain
      · exact hclause

theorem exists_plan (mode : SamplingMode) {table : String}
    (htable : NoQuote table) (highCardinality : Bool) (period : Number)
    (age : Option Number) :
    ∃ stages, plan ⟨mode, .text table⟩ highCardinality period age =
      .ok stages ∧ stages ≠ [] ∧ ∀ stage ∈ stages, stage.Plain := by
  obtain ⟨stages, hplan, hplain⟩ := exists_mapM fun rate hrate =>
    exists_stage mode htable
      (rates_subset highCardinality period age rate hrate)
  refine ⟨stages, hplan, ?_, forall_right_of_forall₂ hplain fun _ _ hstage => hstage⟩
  rintro rfl
  exact rates_ne_nil highCardinality period age
    (List.length_eq_zero_iff.mp hplain.length_eq)

theorem plan_ne_nil {planner : SamplingPlanner} {highCardinality : Bool}
    {period : Number} {age : Option Number} {stages : List SamplingStage}
    (hplan : planner.plan highCardinality period age = .ok stages) :
    stages ≠ [] := by
  obtain ⟨rate, rest, hrates⟩ :=
    List.exists_cons_of_ne_nil (rates_ne_nil highCardinality period age)
  unfold plan at hplan
  rw [hrates, List.mapM_cons] at hplan
  obtain ⟨stage, -, hplan⟩ := bind_eq_ok.mp hplan
  obtain ⟨later, -, hplan⟩ := bind_eq_ok.mp hplan
  rw [← Except.ok.inj hplan]
  exact List.cons_ne_nil stage later

end SamplingPlanner

namespace LoadRequest

/-! ## Requests that are prepared -/

theorem column_of_rangeCount {b : Breakdown} {topN count : Int}
    (hcount : b.dimension.rangeCount (.int topN) = .ok count) :
    b.column count = b.column topN := by
  unfold Breakdown.column
  cases hdimension : b.dimension with
  | expression value => rfl
  | ranges kind column =>
      rw [hdimension] at hcount
      have hsame : count = topN := by
        cases kind <;> exact (Except.ok.inj hcount).symm
      rw [hsame]

theorem exists_rangeCount (b : Breakdown) (topN : Int) :
    ∃ count, b.dimension.rangeCount (.int topN) = .ok count := by
  cases b.dimension with
  | expression value => exact ⟨0, rfl⟩
  | ranges kind column => cases kind <;> exact ⟨topN, rfl⟩

/-- Between times without offsets requests for a named table are prepared, with
the same stages under all filters. -/
theorem exists_prepare (mode : SamplingMode) {table : String} {now : Timestamp}
    (topN : Int) (b : Breakdown) {w : TimeWindow} (htable : NoQuote table)
    (hnow : now.offset = none) (hstart : w.start.offset = none)
    (hstop : w.stop.offset = none) :
    ∃ stages, stages ≠ [] ∧ (∀ stage ∈ stages, stage.Plain) ∧
      ∀ filters, (∀ f ∈ filters, f.OfTexts) →
        prepare ⟨mode, .text table⟩ now topN b filters w =
          .ok (prepared topN b filters w stages) := by
  have hage : ∃ age, w.ageMillis now = .ok age := by
    simp [TimeWindow.ageMillis, Timestamp.since, hnow, hstart, Except.map]
  have hperiod : ∃ period, w.periodMillis = .ok period := by
    simp [TimeWindow.periodMillis, Timestamp.since, hstop, hstart, Except.map]
  obtain ⟨age, hage⟩ := hage
  obtain ⟨period, hperiod⟩ := hperiod
  obtain ⟨stages, hplan, hsome, hplain⟩ := SamplingPlanner.exists_plan
    mode htable b.hasManyGroups (.int period) (some (.int age))
  refine ⟨stages, hsome, hplain, ?_⟩
  intro filters hfilters
  refine prepare_eq_ok.mpr
    ⟨?_, age, period, stages, hage, hperiod, hplan, rfl⟩
  intro f hf
  have hmem : f ∈ filters := by
    unfold appliedFilters at hf
    split at hf
    · exact hf
    · exact (List.mem_filter.mp hf).1
  obtain ⟨column, hcolumn⟩ := (hfilters f hmem).exists_sqlColumn
  exact ⟨.text column, by rw [hcolumn]; rfl⟩

theorem exists_prepareFor (mode : SamplingMode) {table : String}
    {now : Timestamp} (topN : Int) (b : Breakdown) {w : TimeWindow}
    (htable : NoQuote table) (hnow : now.offset = none)
    (hstart : w.start.offset = none) (hstop : w.stop.offset = none) :
    ∃ count stages, b.dimension.rangeCount (.int topN) = .ok count ∧
      stages ≠ [] ∧ (∀ stage ∈ stages, stage.Plain) ∧
      ∀ filters, (∀ f ∈ filters, f.OfTexts) →
        prepareFor ⟨mode, .text table⟩ now (.int topN) b filters w =
          .ok { prepared count b filters w stages with topN } := by
  obtain ⟨count, hcount⟩ := exists_rangeCount b topN
  obtain ⟨stages, hsome, hplain, hprepare⟩ := exists_prepare mode count b
    htable hnow hstart hstop
  refine ⟨count, stages, hcount, hsome, hplain, ?_⟩
  intro filters hfilters
  unfold prepareFor
  rw [hcount]
  simp only [bind, Except.bind, hprepare filters hfilters]
  rfl

theorem prepareFor_eq_ok {planner : SamplingPlanner} {now : Timestamp}
    {topN : Value} {b : Breakdown} {filters : List Filter} {w : TimeWindow}
    {r : LoadRequest}
    (hr : prepareFor planner now topN b filters w = .ok r) :
    ∃ count stages n, r = { prepared count b filters w stages with topN := n } := by
  unfold prepareFor at hr
  obtain ⟨count, -, hr⟩ := bind_eq_ok.mp hr
  obtain ⟨base, hbase, hr⟩ := bind_eq_ok.mp hr
  obtain ⟨-, age, period, stages, -, -, -, rfl⟩ := prepare_eq_ok.mp hbase
  exact ⟨count, stages, _, (Except.ok.inj hr).symm⟩

theorem stages_ne_nil {planner : SamplingPlanner} {now : Timestamp}
    {topN : Value} {b : Breakdown} {filters : List Filter} {w : TimeWindow}
    {r : LoadRequest}
    (hr : prepareFor planner now topN b filters w = .ok r) : r.stages ≠ [] := by
  unfold prepareFor at hr
  obtain ⟨count, -, hr⟩ := bind_eq_ok.mp hr
  obtain ⟨base, hbase, hr⟩ := bind_eq_ok.mp hr
  obtain ⟨-, age, period, stages, -, -, hplan, rfl⟩ := prepare_eq_ok.mp hbase
  rw [← Except.ok.inj hr]
  exact SamplingPlanner.plan_ne_nil hplan

end LoadRequest

end RequestBreakdown
