import RequestBreakdown.Load.Run
import RequestBreakdown.Proofs.Breakdown.Allowed
import RequestBreakdown.Proofs.Load.Stages
import RequestBreakdown.Proofs.Result.RangeRows
import RequestBreakdown.Proofs.Sql.TopText

/-!
# The limit of a query over ranges

A query over ranges is limited to the number of rows that is asked for, while a
partition has at least its fewest ranges, however few are asked for.  Whatever the
groups are and in whatever order they come, zeros stand just for the ranges without
rows, unless fewer rows than the fewest ranges are asked for.
-/

namespace RequestBreakdown

namespace Breakdown

/-- A breakdown by ranges groups the column that its ranges are of, in their order. -/
theorem ranges_facts {b : Breakdown} (hb : b ∈ all) {kind : RangeKind} {column : String}
    (hdimension : b.dimension = .ranges kind column) :
    b.filterOperator = "=" ∧ b.rawColumn.shown? = some column ∧
      Query.orElseText b.orderBy.shown? "min_val" = "min_val" := by
  have hall : ∀ b ∈ all, ∀ r ∈ b.ranges?.toList, b.filterOperator = "=" ∧
      b.rawColumn.shown? = some r.2 ∧
      Query.orElseText b.orderBy.shown? "min_val" = "min_val" := by
    decide +kernel
  exact hall b hb _ (Option.mem_toList.mpr (ranges?_eq_some.mpr hdimension))

/-- The breakdown by the size of the content. -/
def sizes : Breakdown where
  id := "breakdown-content-length"
  title := "Content Length"
  dimension := .ranges .bytes contentLengthColumn
  rawColumn := contentLengthColumn
  orderBy := "min_val"

theorem sizes_mem_all : sizes ∈ all := by decide +kernel

end Breakdown

namespace RangeKind

theorem rangeCount_ranges (kind : RangeKind) (column : String) (n : Int) :
    (Dimension.ranges kind column).rangeCount (.int n) = .ok n := by
  cases kind <;> rfl

end RangeKind

namespace LoadRequest

variable {planner : SamplingPlanner} {now : Timestamp} {topN : Int} {b : Breakdown}
  {filters : List Filter} {w : TimeWindow} {kind : RangeKind} {column : String}
  {r : LoadRequest}

/-- A request for ranges has as many rows as ranges are asked for. -/
structure IsOfRanges (r : LoadRequest) (kind : RangeKind) (column : String)
    (topN : Int) : Prop where
  dimension : r.breakdown.dimension = .ranges kind column
  rawColumn : r.breakdown.rawColumn.shown? = some column
  orderBy : Query.orElseText r.breakdown.orderBy.shown? "min_val" = "min_val"
  decomposed : r.decomposed = false
  rangeCount : r.rangeCount = topN
  topN : r.topN = topN

theorem isOfRanges (hb : b ∈ Breakdown.all) (hdimension : b.dimension = .ranges kind column)
    (hr : prepareFor planner now (.int topN) b filters w = .ok r) :
    r.IsOfRanges kind column topN := by
  obtain ⟨hoperator, hraw, horder⟩ := Breakdown.ranges_facts hb hdimension
  unfold prepareFor at hr
  rw [hdimension, kind.rangeCount_ranges] at hr
  obtain ⟨count, hcount, hr⟩ := bind_eq_ok.mp hr
  obtain ⟨base, hbase, hr⟩ := bind_eq_ok.mp hr
  obtain ⟨-, age, period, stages, -, -, -, rfl⟩ := prepare_eq_ok.mp hbase
  cases hcount
  cases hr
  have hmembers : memberColumn? b topN filters = none := by
    simp [memberColumn?, hoperator]
  exact ⟨hdimension, hraw, horder, by simp [prepared, hmembers], rfl, rfl⟩

namespace IsOfRanges

theorem isContinuous (hranges : r.IsOfRanges kind column topN) :
    r.isContinuous = true := by
  simp [LoadRequest.isContinuous, Breakdown.isBucketed, hranges.dimension,
    Dimension.isBucketed, hranges.decomposed]

theorem isApproximate (hranges : r.IsOfRanges kind column topN) (stage : SamplingStage)
    (isLast : Bool) : r.isApproximate stage isLast = false := by
  simp [LoadRequest.isApproximate, hranges.isContinuous]

theorem labels (hranges : r.IsOfRanges kind column topN) :
    r.labels = (kind.partition topN).labels := by
  simp [LoadRequest.labels, hranges.dimension, Dimension.labels?, hranges.rangeCount]

theorem length_labels_le (hranges : r.IsOfRanges kind column topN) :
    (r.labels.length : Int) ≤ topN ↔ kind.fewest ≤ topN := by
  rw [hranges.labels, kind.length_labels_eq]
  omega

theorem stageQuery (hranges : r.IsOfRanges kind column topN) (modes : CountingModes)
    (stage : SamplingStage) (isLast : Bool) :
    r.stageQuery modes stage isLast =
      Query.topText
        (Query.bucketedGroups ((kind.partition topN).expression Query.bucketValueName)
          column (r.aggregations modes stage) stage r.condition)
        (r.aggregations modes stage ++ [⟨"min_val", "min_val", "MIN"⟩]) "min_val" topN := by
  have hquery : r.bucketedQuery? modes stage = some (Query.bucketed
      ((kind.partition topN).expression Query.bucketValueName) column
      (r.aggregations modes stage) stage r.condition topN r.breakdown.orderBy.shown?) := by
    simp [bucketedQuery?, hranges.dimension, hranges.rawColumn, hranges.decomposed,
      hranges.rangeCount, hranges.topN]
  rw [LoadRequest.stageQuery, if_neg (by simp [hranges.isApproximate]), hquery,
    Option.getD_some, Query.bucketed_eq, hranges.orderBy]

theorem arrange (hranges : r.IsOfRanges kind column topN) (place : StagePlace)
    {rows : List Row} (hnames : ∀ row ∈ rows, ∃ text, row.get Rows.groupColumn = .text text) :
    Load.arrange r place (.list (rows.map Row.value)) =
      .ok (Rows.fillRanges rows (r.labels.map .text) r.breakdown.hasSummary) := by
  have hrows : (rows.map Row.value).mapM Rows.rowInRange = .ok rows := by
    induction rows with
    | nil => rfl
    | cons row rest ih =>
        obtain ⟨text, htext⟩ := hnames row List.mem_cons_self
        have hrow : Rows.rowInRange row.value = .ok row := by
          show (discard (row.get Rows.groupColumn).asName >>= fun _ => _) = _
          rw [htext]
          rfl
        rw [List.map_cons, List.mapM_cons, hrow, ih fun r hr => hnames r (.tail _ hr)]
        rfl
  have hlabels : (r.labels.map Value.text).mapM Value.asName = .ok (r.labels.map .text) := by
    induction r.labels with
    | nil => rfl
    | cons label rest ih =>
        rw [List.map_cons, List.mapM_cons, ih]
        rfl
  rw [Load.arrange, if_neg (by simp [hranges.isApproximate]), if_pos hranges.isContinuous]
  show ((rows.map Row.value).mapM Rows.rowInRange >>= fun found =>
    (r.labels.map Value.text).mapM Value.asName >>= fun names => _) = _
  rw [hrows, hlabels]
  rfl

theorem nodup_labels (hranges : r.IsOfRanges kind column topN) : r.labels.Nodup := by
  rw [hranges.labels]
  exact kind.nodup_labels topN

theorem arrange_groups (hranges : r.IsOfRanges kind column topN) (place : StagePlace)
    {groups : List Row} (hgroups : Rows.AreGroups r.labels groups) (limit : Nat) :
    Load.arrange r place (.list ((groups.take limit).map Row.value)) =
      .ok (Rows.fillRanges (groups.take limit) (r.labels.map .text)
        r.breakdown.hasSummary) := by
  refine hranges.arrange place fun row hrow => ?_
  obtain ⟨label, -, htext⟩ := hgroups.labelled row (List.mem_of_mem_take hrow)
  exact ⟨label, htext⟩

/-- A group is cut off where there are more labels than rows. -/
theorem exists_cut_off (hranges : r.IsOfRanges kind column topN) (place : StagePlace)
    {limit : Nat} (hlimit : limit < r.labels.length) :
    ∃ groups, Rows.AreGroups r.labels groups ∧
      Load.arrange r place (.list ((groups.take limit).map Row.value)) ≠
        .ok (r.labels.map (Rows.shownAt groups r.breakdown.hasSummary)) := by
  have hgroups := Rows.areGroups_oneRequest hranges.nodup_labels
  refine ⟨_, hgroups, ?_⟩
  rw [hranges.arrange_groups place hgroups]
  intro hshown
  exact Rows.fillRanges_take_oneRequest_ne hranges.nodup_labels hlimit _
    (Except.ok.inj hshown)

end IsOfRanges

/-! ## Zeros stand for ranges without rows -/

/-- The query for a breakdown by ranges is limited to the number of rows that is asked
for, and there are no more labels than rows just where that is at least the number of
the fewest ranges.  Just then each label shows its group and zeros stand only where there
is none, whatever the groups are and in whatever order the query gives them. -/
theorem zeros_only_without_rows_iff (hb : b ∈ Breakdown.all)
    (hdimension : b.dimension = .ranges kind column) (htopN : 1 ≤ topN)
    (hr : prepareFor planner now (.int topN) b filters w = .ok r) :
    (∀ modes stage isLast, r.stageQuery modes stage isLast =
      Query.topText
        (Query.bucketedGroups ((kind.partition topN).expression Query.bucketValueName)
          column (r.aggregations modes stage) stage r.condition)
        (r.aggregations modes stage ++ [⟨"min_val", "min_val", "MIN"⟩]) "min_val" topN) ∧
    ((r.labels.length : Int) ≤ topN ↔ kind.fewest ≤ topN) ∧
    ∀ place, (∀ groups ordered : List Row,
        Rows.AreGroups r.labels groups → ordered.Perm groups →
        Load.arrange r place (.list ((ordered.take topN.toNat).map Row.value)) =
          .ok (r.labels.map (Rows.shownAt groups r.breakdown.hasSummary))) ↔
      kind.fewest ≤ topN := by
  have hranges := isOfRanges hb hdimension hr
  refine ⟨hranges.stageQuery, hranges.length_labels_le, fun place => ?_⟩
  rw [← hranges.length_labels_le]
  constructor
  · intro hshown
    by_contra hmore
    have hlimit : topN.toNat < r.labels.length := by omega
    obtain ⟨groups, hgroups, hcut⟩ := hranges.exists_cut_off place hlimit
    exact hcut (hshown groups groups hgroups (.refl groups))
  · intro hroom groups ordered hgroups hperm
    rw [hranges.arrange_groups place (hgroups.perm hperm),
      hgroups.fillRanges_take hperm (by omega)]

theorem exists_prepareFor_sizes (topN : Int) :
    ∃ r, prepareFor ⟨.clause, .text "requests"⟩ ⟨9, none⟩ (.int topN) .sizes []
      ⟨⟨0, none⟩, ⟨5, none⟩⟩ = .ok r := by
  have htable : NoQuote "requests" := by decide
  have hnow : (⟨9, none⟩ : Timestamp).offset = none := rfl
  obtain ⟨count, stages, -, -, -, hprepare⟩ := exists_prepareFor .clause topN
    .sizes (w := ⟨⟨0, none⟩, ⟨5, none⟩⟩) htable hnow rfl rfl
  exact ⟨_, hprepare [] (by simp)⟩

theorem zeros_only_without_rows_iff_sizes :
    ∃ r, prepareFor ⟨.clause, .text "requests"⟩ ⟨9, none⟩ (.int 5) .sizes []
        ⟨⟨0, none⟩, ⟨5, none⟩⟩ = .ok r ∧
      (r.labels.length : Int) ≤ 5 ∧
      ∀ place (groups ordered : List Row),
        Rows.AreGroups r.labels groups → ordered.Perm groups →
        Load.arrange r place (.list ((ordered.take 5).map Row.value)) =
          .ok (r.labels.map (Rows.shownAt groups r.breakdown.hasSummary)) := by
  obtain ⟨r, hr⟩ := exists_prepareFor_sizes 5
  have hfewest : RangeKind.bytes.fewest ≤ 5 := by decide
  obtain ⟨-, hlength, hshown⟩ :=
    zeros_only_without_rows_iff Breakdown.sizes_mem_all rfl (by decide) hr
  exact ⟨_, hr, hlength.mpr hfewest, fun place => (hshown place).mpr hfewest⟩

/-- Of the sizes there are three ranges where one row is asked for, so one of two ranges
with a request shows a zero. -/
theorem limit_one_hides_sizes :
    ∃ r, prepareFor ⟨.clause, .text "requests"⟩ ⟨9, none⟩ (.int 1) .sizes []
        ⟨⟨0, none⟩, ⟨5, none⟩⟩ = .ok r ∧
      (∀ modes stage isLast, ∃ groups outputs,
        r.stageQuery modes stage isLast = Query.topText groups outputs "min_val" 1) ∧
      r.labels = ["0 (empty)", "1 B-100 MB", "≥ 100 MB"] ∧
      ∀ place, ∃ groups, Rows.AreGroups r.labels groups ∧
        Load.arrange r place (.list ((groups.take 1).map Row.value)) ≠
          .ok (r.labels.map (Rows.shownAt groups r.breakdown.hasSummary)) := by
  obtain ⟨r, hr⟩ := exists_prepareFor_sizes 1
  have hranges := isOfRanges Breakdown.sizes_mem_all rfl hr
  have hlabels := hranges.labels.trans (show (RangeKind.bytes.partition 1).labels =
    ["0 (empty)", "1 B-100 MB", "≥ 100 MB"] by decide +kernel)
  refine ⟨_, hr, fun modes stage isLast => ⟨_, _, hranges.stageQuery modes stage isLast⟩,
    hlabels, fun place => hranges.exists_cut_off place ?_⟩
  rw [hlabels]
  decide

end LoadRequest

end RequestBreakdown
