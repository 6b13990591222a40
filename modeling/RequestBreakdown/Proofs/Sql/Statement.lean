import RequestBreakdown.Proofs.Sql.Filling
import RequestBreakdown.Proofs.Sql.PlainText

/-!
# Statements with parallel conditions

The conditions are the only parts of a statement that hold values of filters.
Statements made of the same other parts with parallel conditions are parallel.
-/

namespace RequestBreakdown

open Lexeme

/-! ## The columns of statements -/

structure Aggregation.WellQuoted (a : Aggregation) : Prop where
  name : NoQuote a.name
  rollup : NoQuote a.rollup
  expression : Closed a.expression.toList

namespace Aggregation

private theorem bare_restricted {before after condition : String}
    (hbefore : Bare before.toList) (hafter : Bare after.toList)
    (hcondition : Closed condition.toList) :
    Bare (before ++ (condition ++ after)).toList := by
  simpa using hbefore.between hcondition hafter

theorem bare_measure (multiplier : Int) (bytesMode : Bool)
    (condition : Option String)
    (hcondition : ∀ text, condition = some text → Closed text.toList) :
    Bare (measure (.int multiplier) bytesMode condition).toList := by
  have hamount : ∀ amount : String, Bare amount.toList →
      Bare (if (Value.int multiplier).same (.int 1) then amount
        else amount ++ " * " ++ (Value.int multiplier).display).toList := by
    intro amount hamount
    split
    · exact hamount
    · have htail : Bare (" * " ++ (Value.int multiplier).display).toList := by
        apply bare_of_noQuote
        · simp
        · exact noQuote_append.mpr ⟨by decide, noQuote_int multiplier⟩
      rw [String.append_assoc, String.toList_append]
      exact hamount.append htail
  apply hamount
  cases condition with
  | none => cases bytesMode <;> decide +kernel
  | some text =>
      have htext := hcondition text rfl
      cases bytesMode with
      | false =>
          have hfront : Bare "COUNT(*) FILTER (WHERE ".toList := by decide
          have hback : Bare ")".toList := by decide
          have hbare := bare_restricted hfront hback htext
          simpa using hbare
      | true =>
          have hfront : Bare
              "COALESCE(SUM(content_length) FILTER (WHERE ".toList := by decide
          have hback : Bare "), 0)".toList := by decide
          have hbare := bare_restricted hfront hback htext
          simpa [contentLengthColumn] using hbare

theorem wellQuoted_forBreakdown (multiplier : Int) (bytesMode : Bool)
    {summary : Option String}
    (hsummary : ∀ text, summary = some text → Closed text.toList) :
    ∀ a ∈ forBreakdown (.int multiplier) bytesMode summary, a.WellQuoted := by
  intro a ha
  have hrollup : NoQuote "SUM" := by decide
  simp only [forBreakdown, List.mem_append, List.mem_singleton, List.mem_map,
    Option.mem_toList, Option.map_eq_some_iff] at ha
  rcases ha with (rfl | ⟨⟨name, condition⟩, hclass, rfl⟩) |
    ⟨text, htext, rfl⟩
  · have hmeasure := bare_measure multiplier bytesMode none (by simp)
    have hname : NoQuote "cnt" := by decide
    exact ⟨hname, hrollup, hmeasure.closed⟩
  · have hall : ∀ entry ∈ statusClasses,
        NoQuote entry.1 ∧ Closed entry.2.toList := by
      decide +kernel
    obtain ⟨hname, hcondition⟩ := hall _ hclass
    have hmeasure := bare_measure multiplier bytesMode
      (some condition) (by rintro text ⟨⟩; exact hcondition)
    exact ⟨hname, hrollup, hmeasure.closed⟩
  · have hmeasure := bare_measure multiplier bytesMode
      (some text) (by
        rintro other ⟨⟩
        exact hsummary text (Option.filter_eq_some_iff.mp htext).1)
    have hname : NoQuote "summary_cnt" := by decide
    exact ⟨hname, hrollup, hmeasure.closed⟩

theorem closed_selectList {aggregations : List Aggregation}
    (haggregations : ∀ a ∈ aggregations, a.WellQuoted) :
    Closed (selectList aggregations).toList := by
  unfold selectList
  rw [String.toList_intercalate, List.map_map]
  apply Closed.intercalate (by decide)
  intro a ha
  have hname : NoQuote (" AS " ++ a.name) :=
    noQuote_append.mpr ⟨by decide, (haggregations a ha).name⟩
  have htext := (haggregations a ha).expression.append hname.closed
    (.inr (by simp))
  simpa using htext

end Aggregation

structure SamplingStage.Plain (stage : SamplingStage) : Prop where
  source : NoQuote stage.sourceText
  clause : NoQuote stage.clause

/-! ## Conditions -/

variable {u v : Nat → String} {order : List Nat}

namespace Query

def conditionFront (timeText : String) : String :=
  if timeText = "" then "1=1" else timeText

def conditionBack (extra : Option String) : String :=
  ((extra.filter (· != "")).map (" AND " ++ ·)).getD ""

theorem condition_eq (timeText filterText : String) (extra : Option String) :
    condition timeText filterText extra =
      conditionFront timeText ++
        (if filterText = "" then "" else " " ++ filterText) ++
        conditionBack extra := by
  apply String.toList_inj.mp
  unfold condition conditionFront conditionBack
  cases extra.filter (· != "") with
  | none => by_cases hempty : filterText = "" <;> simp [hempty]
  | some text => by_cases hempty : filterText = "" <;> simp [hempty]

theorem condition_ne_empty (timeText filterText : String)
    (extra : Option String) : condition timeText filterText extra ≠ "" := by
  intro hempty
  rw [condition_eq, String.append_assoc, String.append_eq_empty_iff] at hempty
  have hfront := hempty.1
  unfold conditionFront at hfront
  split at hfront
  · exact absurd hfront (by decide)
  · contradiction

theorem closed_conditionFront {timeText : String}
    (htime : Closed timeText.toList) :
    Closed (conditionFront timeText).toList := by
  unfold conditionFront
  split
  · decide
  · exact htime

theorem closed_conditionBack {extra : Option String}
    (hextra : ∀ text, extra = some text → Closed text.toList) :
    Closed (conditionBack extra).toList ∧
      (conditionBack extra).toList.head? ≠ some '\'' := by
  unfold conditionBack
  cases hshown : extra.filter (· != "") with
  | none => exact ⟨by decide, by decide⟩
  | some text =>
      have hclosed := hextra text (Option.filter_eq_some_iff.mp hshown).1
      have hlead : Bare " AND ".toList := by decide
      constructor
      · simpa using hlead.closed.append hclosed (hlead.apart _)
      · simp

theorem parallel_condition {timeText filterText otherText : String}
    {extra : Option String} (htime : Closed timeText.toList)
    (hextra : ∀ text, extra = some text → Closed text.toList)
    (hfilters : Parallel u v order filterText.toList otherText.toList) :
    Parallel u v order (condition timeText filterText extra).toList
      (condition timeText otherText extra).toList := by
  have hfront := closed_conditionFront htime
  obtain ⟨hback, hseam⟩ := closed_conditionBack hextra
  have hempty : filterText = "" ↔ otherText = "" := by
    have hnil := hfilters.nil_iff
    simpa using hnil
  rw [condition_eq, condition_eq]
  by_cases hnone : filterText = ""
  · have hnothing : order = [] := by
      rw [hnone] at hfilters
      exact hfilters.order_nil
    rw [if_pos hnone, if_pos (hempty.mp hnone), hnothing]
    simpa using Parallel.refl (hfront.append hback (.inr hseam))
  · have hother : otherText ≠ "" := fun h => hnone (hempty.mpr h)
    have hmiddle := (Parallel.refl (u := u) (v := v) hfront).append_bare
      (t := " ".toList) (by decide) hfilters
    have hall := hmiddle.append (.refl hback) (.inr hseam) (.inr hseam)
    simpa [hnone, hother] using hall

/-! ## Whole statements -/

private theorem closed_names {names : List String}
    (hnames : ∀ name ∈ names, Closed name.toList) :
    Closed (", ".intercalate names).toList := by
  rw [String.toList_intercalate]
  exact Closed.intercalate (by decide) hnames

private theorem closed_columns {outputs : List Aggregation}
    (houtputs : ∀ a ∈ outputs, a.WellQuoted) :
    Closed (", ".intercalate ("dim" :: outputs.map (·.name))).toList := by
  apply closed_names
  intro name hname
  rcases List.mem_cons.mp hname with rfl | hname
  · decide
  · obtain ⟨a, ha, rfl⟩ := List.mem_map.mp hname
    exact (houtputs a ha).name.closed

private theorem closed_totals {outputs : List Aggregation}
    (houtputs : ∀ a ∈ outputs, a.WellQuoted) :
    Closed (", ".intercalate (outputs.map fun a =>
      a.rollup ++ "(" ++ a.name ++ ") AS " ++ a.name)).toList := by
  apply closed_names
  intro text htext
  obtain ⟨a, ha, rfl⟩ := List.mem_map.mp htext
  have hname := (houtputs a ha).name
  apply NoQuote.closed
  simp only [noQuote_append]
  exact ⟨⟨⟨⟨(houtputs a ha).rollup, by decide⟩, hname⟩, by decide⟩, hname⟩

theorem parallel_topWithTotals {grouped other orderBy : String}
    {outputs : List Aggregation} (limit : Int)
    (houtputs : ∀ a ∈ outputs, a.WellQuoted) (horderBy : Closed orderBy.toList)
    (hgrouped : Parallel u v order grouped.toList other.toList) :
    Parallel u v order (topWithTotals grouped outputs orderBy limit).toList
      (topWithTotals other outputs orderBy limit).toList := by
  apply Template.parallel_entries Template.wellSpaced_topTotals
    Template.markerNames_topTotals [
      { name := "GROUPED_QUERY", left := grouped, right := other, order },
      { name := "ORDER_BY", left := orderBy },
      { name := "LIMIT", left := toString limit },
      { name := "COLUMNS"
        left := ", ".intercalate ("dim" :: outputs.map (·.name)) },
      { name := "TOTALS"
        left := ", ".intercalate (outputs.map fun a =>
          a.rollup ++ "(" ++ a.name ++ ") AS " ++ a.name) }]
  · simp
  · simp only [List.forall_mem_cons, List.not_mem_nil, false_implies,
      implies_true, and_true]
    exact ⟨hgrouped, .refl horderBy, .refl (noQuote_int limit).closed,
      .refl (closed_columns houtputs), .refl (closed_totals houtputs)⟩
  · simp [Template.orderOf]

theorem closed_orElseText {text : Option String} {other : String}
    (htext : ∀ given, text = some given → Closed given.toList)
    (hother : Closed other.toList) : Closed (orElseText text other).toList := by
  unfold orElseText
  cases hgiven : text.filter (· != "") with
  | none => exact hother
  | some given => exact htext given (Option.filter_eq_some_iff.mp hgiven).1

section Statements

variable {aggregations : List Aggregation} {stage : SamplingStage}
  {condition other : String} {orderBy : Option String}

theorem parallel_breakdown {dimension : String} (limit : Int)
    (hdimension : Closed dimension.toList)
    (haggregations : ∀ a ∈ aggregations, a.WellQuoted) (hstage : stage.Plain)
    (horderBy : ∀ text, orderBy = some text → Closed text.toList)
    (hcondition : Parallel u v order condition.toList other.toList) :
    Parallel u v order
      (breakdown dimension aggregations stage condition limit orderBy).toList
      (breakdown dimension aggregations stage other limit orderBy).toList := by
  apply parallel_topWithTotals limit haggregations
    (closed_orElseText horderBy (by decide))
  apply Template.parallel_entries Template.wellSpaced_grouped
    Template.markerNames_grouped [
      { name := "DIM_EXPR", left := dimension },
      { name := "AGGREGATIONS", left := Aggregation.selectList aggregations },
      { name := "SOURCE", left := stage.sourceText },
      { name := "SAMPLE_CLAUSE", left := stage.clause },
      { name := "WHERE", left := condition, right := other, order }]
  · simp
  · simp only [List.forall_mem_cons, List.not_mem_nil, false_implies,
      implies_true, and_true]
    exact ⟨.refl hdimension, .refl (Aggregation.closed_selectList haggregations),
      .refl hstage.source.closed, .refl hstage.clause.closed, hcondition⟩
  · simp [Template.orderOf]

private theorem wellQuoted_summed
    (haggregations : ∀ a ∈ aggregations, a.WellQuoted) :
    ∀ a ∈ aggregations.map fun a =>
      { a with expression := "SUM(" ++ a.name ++ ")" }, a.WellQuoted := by
  intro a ha
  obtain ⟨inner, hinner, rfl⟩ := List.mem_map.mp ha
  obtain ⟨hname, hrollup, -⟩ := haggregations inner hinner
  have htext : NoQuote ("SUM(" ++ inner.name ++ ")") := by
    simp only [noQuote_append]
    exact ⟨⟨by decide, hname⟩, by decide⟩
  exact ⟨hname, hrollup, htext.closed⟩

private theorem wellQuoted_withMinimum
    (haggregations : ∀ a ∈ aggregations, a.WellQuoted) :
    ∀ a ∈ aggregations ++ [⟨"min_val", "min_val", "MIN"⟩], a.WellQuoted := by
  intro a ha
  rcases List.mem_append.mp ha with ha | ha
  · exact haggregations a ha
  · rw [List.mem_singleton.mp ha]
    exact ⟨by decide, by decide, by decide⟩

theorem parallel_bucketed {bucketExpression rawColumn : String} (limit : Int)
    (hbucket : Closed bucketExpression.toList) (hraw : Closed rawColumn.toList)
    (haggregations : ∀ a ∈ aggregations, a.WellQuoted) (hstage : stage.Plain)
    (horderBy : ∀ text, orderBy = some text → Closed text.toList)
    (hcondition : Parallel u v order condition.toList other.toList) :
    Parallel u v order
      (bucketed bucketExpression rawColumn aggregations stage condition limit
        orderBy).toList
      (bucketed bucketExpression rawColumn aggregations stage other limit
        orderBy).toList := by
  have houter := wellQuoted_summed haggregations
  have houtputs := wellQuoted_withMinimum haggregations
  apply parallel_topWithTotals limit houtputs
    (closed_orElseText horderBy (by decide))
  apply Template.parallel_entries Template.wellSpaced_bucketedGrouped
    Template.markerNames_bucketedGrouped [
      { name := "BUCKET_EXPR", left := bucketExpression },
      { name := "OUTER_AGGREGATIONS"
        left := Aggregation.selectList (aggregations.map fun a =>
          { a with expression := "SUM(" ++ a.name ++ ")" }) },
      { name := "RAW_COLUMN", left := rawColumn },
      { name := "AGGREGATIONS", left := Aggregation.selectList aggregations },
      { name := "SOURCE", left := stage.sourceText },
      { name := "SAMPLE_CLAUSE", left := stage.clause },
      { name := "WHERE", left := condition, right := other, order }]
  · simp
  · simp only [List.forall_mem_cons, List.not_mem_nil, false_implies,
      implies_true, and_true]
    exact ⟨.refl hbucket, .refl (Aggregation.closed_selectList houter),
      .refl hraw, .refl (Aggregation.closed_selectList haggregations),
      .refl hstage.source.closed, .refl hstage.clause.closed, hcondition⟩
  · simp [Template.orderOf]

/-- The condition stands twice in an approximate query, for the candidates and
for their counts. -/
theorem parallel_approximate {dimension source totals : String} (limit : Int)
    (hdimension : Closed dimension.toList)
    (haggregations : ∀ a ∈ aggregations, a.WellQuoted) (hsource : NoQuote source)
    (hpresent : totals ≠ "") (htotals : Closed totals.toList)
    (hcondition : Parallel u v order condition.toList other.toList) :
    Parallel u v (order ++ order)
      (approximate dimension aggregations source condition limit
        (some totals)).toList
      (approximate dimension aggregations source other limit
        (some totals)).toList := by
  have horElse : ∀ text, orElseText (some totals) text = totals := by
    intro text
    simp [orElseText, Option.filter, hpresent]
  unfold approximate
  rw [horElse, horElse]
  apply Template.parallel_entries Template.wellSpaced_approximateTop
    Template.markerNames_approximateTop [
      { name := "DIM_EXPR", left := dimension },
      { name := "AGGREGATIONS", left := Aggregation.selectList aggregations },
      { name := "SOURCE", left := source },
      { name := "WHERE", left := condition, right := other, order },
      { name := "TOTALS_WHERE", left := totals },
      { name := "LIMIT", left := toString limit }]
  · simp
  · simp only [List.forall_mem_cons, List.not_mem_nil, false_implies,
      implies_true, and_true]
    exact ⟨.refl hdimension, .refl (Aggregation.closed_selectList haggregations),
      .refl hsource.closed, hcondition, .refl htotals,
      .refl (noQuote_int limit).closed⟩
  · simp [Template.orderOf]

end Statements

end Query

end RequestBreakdown
