import RequestBreakdown.Proofs.Fault
import RequestBreakdown.Proofs.Value.Counts
import RequestBreakdown.View.Table

/-!
# Counts in a view

A view shows every row of a table with its count, its group and the mark of the last
filter on that group.  What the totals count beyond the rows is one more row, so that
the counts of a view add up to the totals.
-/

namespace RequestBreakdown

namespace Filter

/-- The filter is on the column and has the text as its value. -/
def Names (f : Filter) (column : Value) (group : String) : Prop :=
  f.column.same column = true ∧ f.value.display = group

end Filter

/-- The last of the filters that name a group decides how it is marked. -/
inductive IsMarked (filters : List Filter) (column : Value) (group : String) :
    Option FilterMark → Prop where
  | unmarked (hnone : ∀ f ∈ filters, ¬ f.Names column group) :
      IsMarked filters column group none
  | decided {earlier later : List Filter} {f : Filter}
      (hfilters : filters = earlier ++ f :: later) (hnames : f.Names column group)
      (hlast : ∀ g ∈ later, ¬ g.Names column group) :
      IsMarked filters column group
        (some (if f.exclude.isPresent then .excluded else .included))

/-- The text goes on after the prefix. -/
def LeadsIn (leading text : String) : Prop :=
  ∃ rest, rest ≠ "" ∧ text = leading ++ rest

/-- The first of the prefixes that a text goes on after is shown dimmed. -/
inductive IsLed (prefixes : List String) (text : String) : String → Prop where
  | whole (hnone : ∀ p ∈ prefixes, ¬ LeadsIn p text) : IsLed prefixes text ""
  | led {earlier later : List String} {p : String}
      (hprefixes : prefixes = earlier ++ p :: later) (hleads : LeadsIn p text)
      (hfirst : ∀ q ∈ earlier, ¬ LeadsIn q text) : IsLed prefixes text p

/-- How a row that counts so many is shown. -/
structure RowView.Shows (filters : List Filter) (column : Value) (prefixes : List String)
    (row : Row) (n : Nat) (view : RowView) : Prop where
  count : view.count = n
  group : view.group = if row.get "dim" = .null then "" else (row.get "dim").display
  text : view.group ≠ "" → view.leading ++ view.label = view.group
  empty : view.group = "" → view.label = "(empty)"
  leading : IsLed prefixes view.group view.leading
  mark : IsMarked filters column view.group view.mark
  isOther : view.isOther = false

/-- What rows and totals count, column by column, and the prefixes that are shown
dimmed.  No list has more than so many items. -/
structure BreakdownTable.Counts (t : BreakdownTable) (prefixes : List String)
    (totals : Option Row) (counted : Row → String → Nat) : Prop where
  length_lt : t.rows.length < 2 ^ 63
  rows : ∀ row ∈ t.rows, ∀ column ∈ Rows.countColumns,
    (row.get column).IsCount (counted row column)
  totals_eq : t.totals = (totals.map Row.value).getD .null
  totals : ∀ row ∈ totals, ∀ column ∈ Rows.countColumns,
    (row.get column).IsCount (counted row column)
  prefixes : prefixesOf t.labelPrefixes = .ok (prefixes.map .text)

theorem leadsIn_iff {leading text : String} :
    LeadsIn leading text ↔
      leading.toList <+: text.toList ∧ leading.length < text.length := by
  constructor
  · rintro ⟨rest, hrest, rfl⟩
    have hlength : rest.length ≠ 0 := by simpa using hrest
    rw [String.toList_append, String.length_append]
    exact ⟨List.prefix_append _ _, by omega⟩
  · rintro ⟨⟨rest, hrest⟩, hlength⟩
    refine ⟨String.ofList rest, ?_, ?_⟩
    · rintro hnone
      have hnil : rest = [] := by simpa using hnone
      have hsame : leading.toList = text.toList := by simpa [hnil] using hrest
      rw [String.toList_inj] at hsame
      simp [hsame] at hlength
    · rw [← String.toList_inj, String.toList_append, String.toList_ofList, hrest]

/-- A text is divided without a loss, behind the first prefix that leads it. -/
theorem splitPrefix_spec (text : String) (prefixes : List String) :
    ∃ leading rest, splitPrefix text (prefixes.map .text) = .ok (leading, rest) ∧
      leading ++ rest = text ∧ IsLed prefixes text leading := by
  induction prefixes with
  | nil => exact ⟨"", text, rfl, String.empty_append, .whole (by simp)⟩
  | cons first others ih =>
      have hleads : (first.toList.isPrefixOf text.toList &&
          decide (first.length < text.length)) = true ↔ LeadsIn first text := by
        rw [Bool.and_eq_true, List.isPrefixOf_iff_prefix, decide_eq_true_eq, leadsIn_iff]
      rw [List.map_cons, splitPrefix]
      split
      · rename_i hbegins
        have hfirst := hleads.mp hbegins
        refine ⟨first, _, rfl, ?_, .led (List.nil_append _).symm hfirst (by simp)⟩
        obtain ⟨rest, -, rfl⟩ := hfirst
        have hdrop : ((first ++ rest).drop first.length).toString.toList =
            (first ++ rest).toList.drop first.toList.length := by
          rw [String.length_toList]
          exact String.toList_copy_drop
        rw [← String.toList_inj, String.toList_append, hdrop, String.toList_append,
          List.drop_left]
      · rename_i hnot
        rw [hleads] at hnot
        obtain ⟨leading, rest, hsplit, htext, hled⟩ := ih
        refine ⟨leading, rest, hsplit, htext, ?_⟩
        cases hled with
        | whole hnone =>
            exact .whole (List.forall_mem_cons.mpr ⟨hnot, hnone⟩)
        | led hprefixes hp hearlier =>
            exact .led (congrArg (first :: ·) hprefixes) hp
              (List.forall_mem_cons.mpr ⟨hnot, hearlier⟩)

namespace BreakdownView

theorem isMarked_markOf (filters : List Filter) (column : Value) (group : String) :
    IsMarked filters column group (markOf (filters.filter (·.isOn column)) group) := by
  have hnames : ∀ f : Filter, (f.isOn column && f.value.display == group) = true ↔
      f.Names column group := by
    intro f
    rw [Bool.and_eq_true, beq_iff_eq]
    rfl
  have hfind : (filters.filter (·.isOn column)).reverse.find? (·.value.display == group) =
      filters.reverse.find? fun f => f.isOn column && f.value.display == group := by
    rw [← List.filter_reverse, List.find?_filter]
    simp only [Bool.decide_and, Bool.decide_eq_true]
  unfold markOf
  rw [hfind]
  cases hfound : filters.reverse.find? fun f => f.isOn column && f.value.display == group with
  | none =>
      apply IsMarked.unmarked
      intro f hf hnamed
      exact List.find?_eq_none.mp hfound f (List.mem_reverse.mpr hf) ((hnames f).mpr hnamed)
  | some f =>
      -- What was passed over from the end stands behind the filter that was found.
      obtain ⟨hnamed, passed, others, hsplit, habsent⟩ := List.find?_eq_some_iff_append.mp hfound
      have hfilters : filters = others.reverse ++ f :: passed.reverse := by
        rw [← List.reverse_reverse filters, hsplit]
        simp
      apply IsMarked.decided hfilters ((hnames f).mp hnamed)
      intro g hg hnamed'
      have hnot := habsent g (List.mem_reverse.mp hg)
      rw [(hnames g).mpr hnamed'] at hnot
      cases hnot

theorem groupText_eq (row : Row) :
    groupText row = if row.get "dim" = .null then "" else (row.get "dim").display := by
  unfold groupText Rows.groupColumn
  cases row.get "dim" <;> rfl

theorem exists_percentOf {part whole : Int} (hpart : part.natAbs.log2 ≤ 1022)
    (hwhole : whole ≠ 0) : ∃ percent, percentOf part whole = .ok percent := by
  have hfinite := Binary64.isFinite_ofRatio (decide (part < 0) != decide (whole < 0))
    whole.natAbs hpart
  have hdiv : ∃ share, (Number.int part).div (.int whole) = .ok share := by
    refine ⟨Binary64.ofRatio (decide (part < 0) != decide (whole < 0)) part.natAbs
      whole.natAbs, ?_⟩
    unfold Number.div
    simp only [Number.counted, if_neg hwhole, hfinite, if_true]
  obtain ⟨share, hshare⟩ := hdiv
  refine ⟨share.mul Binary64.hundred, ?_⟩
  unfold percentOf
  rw [hshare]
  rfl

theorem exists_sharesOf (count : Int) {row : Row}
    (hcounts : ∀ column ∈ Rows.countColumns,
      ∃ i, (row.get column).toCount = .ok i ∧ i.natAbs.log2 ≤ 1022) :
    ∃ shares, sharesOf count row = .ok shares := by
  unfold sharesOf
  by_cases hnone : count ≤ 0
  · rw [if_pos hnone]
    exact ⟨_, rfl⟩
  · have hshare : ∀ column ∈ Rows.countColumns, ∃ percent,
        ((row.get column).toCount >>= fun i => percentOf i count) = .ok percent := by
      intro column hcolumn
      obtain ⟨i, hi, hlog⟩ := hcounts column hcolumn
      obtain ⟨percent, hpercent⟩ := exists_percentOf hlog (show count ≠ 0 by omega)
      rw [hi]
      exact ⟨percent, hpercent⟩
    obtain ⟨ok, hok⟩ := hshare "cnt_ok" (by decide)
    obtain ⟨client, hclient⟩ := hshare "cnt_4xx" (by decide)
    obtain ⟨server, hserver⟩ := hshare "cnt_5xx" (by decide)
    rw [if_neg hnone]
    refine ⟨⟨ok, client, server⟩, ?_⟩
    dsimp only
    rw [hok, hclient, hserver]
    rfl

theorem largestOf_ne_zero (counts : List Int) : largestOf counts ≠ 0 := by
  unfold largestOf
  cases counts with
  | nil => exact one_ne_zero
  | cons c rest =>
      dsimp only
      split
      · exact one_ne_zero
      · assumption

theorem log2_natAbs_of_isCount {value : Value} {n : Nat} (hcount : value.IsCount n) :
    (n : Int).natAbs.log2 ≤ 1022 := by
  have hlog : n.log2 ≤ 52 := Binary64.log2_le_of_lt hcount.1
  rw [Int.natAbs_natCast]
  omega

section Rows

variable {counted : Row → String → Nat} {largest : Int}

theorem exists_rowView (filters : List Filter) (column : Value) (prefixes : List String)
    {row : Row} (hcounted : ∀ name ∈ Rows.countColumns, (row.get name).IsCount (counted row name))
    (hlargest : largest ≠ 0) :
    ∃ view, rowView (prefixes.map .text) (filters.filter (·.isOn column)) largest row =
      .ok view ∧ view.Shows filters column prefixes row (counted row "cnt") := by
  have hcnt := hcounted "cnt" (by decide)
  obtain ⟨leading, rest, hsplit, htext, hleading⟩ := splitPrefix_spec (groupText row) prefixes
  obtain ⟨shares, hshares⟩ := exists_sharesOf (counted row "cnt") fun name hname =>
    ⟨_, Value.toCount_of_isCount (hcounted name hname),
      log2_natAbs_of_isCount (hcounted name hname)⟩
  obtain ⟨width, hwidth⟩ := exists_percentOf (log2_natAbs_of_isCount hcnt) hlargest
  refine ⟨{
    group := groupText row, leading, count := counted row "cnt", shares
    label := if groupText row = "" then emptyLabel else rest
    barWidth := width
    mark := markOf (filters.filter (·.isOn column)) (groupText row)
    isFilteredValue := (row.get "is_filtered_value").isPresent }, ?_, ?_⟩
  · unfold rowView
    simp only [Value.toCount_of_isCount hcnt, hsplit, bind, Except.bind, hshares, hwidth]
    rfl
  · constructor
    case count => rfl
    case group => exact groupText_eq row
    case text =>
        intro hgroup
        change leading ++ (if groupText row = "" then emptyLabel else rest) = groupText row
        rw [if_neg hgroup, htext]
    case empty => exact fun hgroup => if_pos hgroup
    case leading => exact hleading
    case mark => exact isMarked_markOf filters column (groupText row)
    case isOther => rfl

/-- What rows count in a column, all together. -/
def countedBy (counted : Row → String → Nat) (rows : List Row) (column : String) : Nat :=
  (rows.map (counted · column)).sum

theorem countedBy_cons (row : Row) (rest : List Row) (column : String) :
    countedBy counted (row :: rest) column =
      counted row column + countedBy counted rest column := by
  unfold countedBy
  rw [List.map_cons, List.sum_cons]

theorem countedBy_le {rows : List Row} {column : String}
    (hrows : ∀ row ∈ rows, (row.get column).IsCount (counted row column)) :
    countedBy counted rows column ≤ rows.length * 2 ^ 53 := by
  induction rows with
  | nil => exact Nat.zero_le _
  | cons row rest ih =>
      have hrow := (hrows row List.mem_cons_self).1
      have hrest := ih fun other hother => hrows other (List.mem_cons_of_mem row hother)
      rw [countedBy_cons, List.length_cons]
      omega

theorem sum_counted (rows : List Row) (column : String) :
    (rows.map fun row => (counted row column : Int)).sum = countedBy counted rows column := by
  induction rows with
  | nil => rfl
  | cons row rest ih =>
      rw [List.map_cons, List.sum_cons, ih, countedBy_cons, Int.natCast_add]

theorem mapM_toCount {rows : List Row} {column : String}
    (hrows : ∀ row ∈ rows, (row.get column).IsCount (counted row column)) :
    rows.mapM (fun row => (row.get column).toCount) =
      .ok (rows.map fun row => (counted row column : Int)) :=
  mapM_eq_ok fun row hrow => Value.toCount_of_isCount (hrows row hrow)

/-- What the totals count in a column beyond the rows. -/
def beyond (counted : Row → String → Nat) (totals : Row) (rows : List Row)
    (column : String) : Int :=
  (counted totals column : Int) - countedBy counted rows column

theorem beyond_pos_iff {totals : Row} {rows : List Row} {column : String} :
    0 < beyond counted totals rows column ↔
      countedBy counted rows column < counted totals column := by
  unfold beyond
  omega

theorem natAbs_beyond_lt {totals : Row} {rows : List Row} {column : String}
    (hlength : rows.length < 2 ^ 63)
    (htotals : (totals.get column).IsCount (counted totals column))
    (hrows : ∀ row ∈ rows, (row.get column).IsCount (counted row column)) :
    (beyond counted totals rows column).natAbs < 2 ^ 118 := by
  have hle := countedBy_le hrows
  have htotal := htotals.1
  unfold beyond
  omega

theorem restOf_eq {totals : Row} {rows : List Row} {column : String}
    (htotals : (totals.get column).IsCount (counted totals column))
    (hrows : ∀ row ∈ rows, (row.get column).IsCount (counted row column)) :
    restOf totals rows column = .ok (beyond counted totals rows column) := by
  unfold restOf
  rw [Value.toCount_of_isCount htotals, mapM_toCount hrows]
  simp only [bind, Except.bind, ← List.sum_eq_foldl, sum_counted]
  rfl

/-- Differences of this size have shares, although they may have been rounded. -/
theorem exists_sharesOf_rest (count : Int) {rest : String → Int}
    (hbound : ∀ column ∈ Rows.countColumns, (rest column).natAbs < 2 ^ 118) :
    ∃ shares, sharesOf count ⟨(Rows.countColumns.map fun column => (column, rest column)).map
      fun entry => (entry.1, .int entry.2)⟩ = .ok shares := by
  apply exists_sharesOf
  intro column hcolumn
  have hlt := hbound column hcolumn
  have hlog : (rest column).natAbs.log2 ≤ 117 := Binary64.log2_le_of_lt hlt
  have hget : Row.get ⟨(Rows.countColumns.map fun column => (column, rest column)).map
      fun entry => (entry.1, .int entry.2)⟩ column = .int (rest column) := by
    simp only [Rows.countColumns, List.mem_cons, List.not_mem_nil, or_false] at hcolumn
    rcases hcolumn with rfl | rfl | rfl | rfl <;> rfl
  obtain ⟨i, hi, hle⟩ := Value.exists_toCount_int (Nat.le_trans hlog (by omega))
  have hlog' : i.natAbs.log2 ≤ 118 := Binary64.log2_le_of_lt (by omega)
  exact ⟨i, by rw [hget, hi], by omega⟩

/-- The row of the rest counts what the totals count beyond the rows, and there is one
just in case this is something. -/
theorem exists_otherRow {totals : Row} {rows : List Row} (hlength : rows.length < 2 ^ 63)
    (htotals : ∀ column ∈ Rows.countColumns, (totals.get column).IsCount (counted totals column))
    (hrows : ∀ row ∈ rows, ∀ column ∈ Rows.countColumns,
      (row.get column).IsCount (counted row column)) (hlargest : largest ≠ 0) :
    ∃ other, otherRow? totals rows largest = .ok other ∧
      (other.isSome = true ↔ 0 < beyond counted totals rows "cnt") ∧
      ∀ view ∈ other, view.isOther = true ∧ view.count = beyond counted totals rows "cnt" := by
  have hrest : Rows.countColumns.mapM
      (fun column => do return (column, ← restOf totals rows column)) =
        .ok (Rows.countColumns.map fun column =>
          (column, beyond counted totals rows column)) := by
    apply mapM_eq_ok
    intro column hcolumn
    rw [restOf_eq (htotals column hcolumn) fun row hrow => hrows row hrow column hcolumn]
    rfl
  have hbound : ∀ column ∈ Rows.countColumns,
      (beyond counted totals rows column).natAbs < 2 ^ 118 := fun column hcolumn =>
    natAbs_beyond_lt hlength (htotals column hcolumn) fun row hrow => hrows row hrow column hcolumn
  have hlookup : ((Rows.countColumns.map fun column =>
      (column, beyond counted totals rows column)).lookup "cnt").getD 0 =
        beyond counted totals rows "cnt" := rfl
  unfold otherRow?
  simp only [bind, Except.bind, pure] at hrest ⊢
  rw [hrest]
  dsimp only
  rw [hlookup]
  by_cases hnone : beyond counted totals rows "cnt" ≤ 0
  · rw [if_pos hnone]
    refine ⟨none, rfl, ?_, by simp⟩
    simpa using hnone
  · have hlog : (beyond counted totals rows "cnt").natAbs.log2 ≤ 117 :=
      Binary64.log2_le_of_lt (hbound "cnt" (by decide))
    obtain ⟨shares, hshares⟩ := exists_sharesOf_rest (beyond counted totals rows "cnt") hbound
    obtain ⟨width, hwidth⟩ := exists_percentOf (Nat.le_trans hlog (by omega)) hlargest
    rw [if_neg hnone, hshares, hwidth]
    refine ⟨some _, rfl, by simpa using hnone, ?_⟩
    intro view hview
    obtain rfl := Option.some.inj hview
    exact ⟨rfl, rfl⟩

theorem sum_count_of_shows {filters : List Filter} {column : Value} {prefixes : List String}
    {rows : List Row} {views : List RowView}
    (hshows : List.Forall₂ (fun row view => RowView.Shows filters column prefixes row
      (counted row "cnt") view) rows views) :
    (views.map (·.count)).sum = countedBy counted rows "cnt" := by
  induction hshows with
  | nil => rfl
  | cons hrow _ ih =>
      rw [List.map_cons, List.sum_cons, ih, hrow.count, countedBy_cons, Int.natCast_add]

end Rows

section Tables

variable {t : BreakdownTable} {prefixes : List String} {totals : Option Row}
  {counted : Row → String → Nat}

/-- The row of the rest, when there are totals and more rows could be asked for. -/
def restRow? (t : BreakdownTable) (nextTopN : Option Int) (largest : Int) :
    Except Fault (Option RowView) :=
  match t.totals.present?, nextTopN with
  | some given, some _ => do otherRow? (← Row.ofValue given) t.rows largest
  | _, _ => .ok none

theorem restRow?_of_none {nextTopN : Option Int} (largest : Int)
    (hnone : t.totals.present? = none ∨ nextTopN = none) :
    restRow? t nextTopN largest = .ok none := by
  unfold restRow?
  rcases hnone with hnone | rfl
  · rw [hnone]
  · cases t.totals.present? <;> rfl

theorem restRow?_of_present {given : Value} {total : Row} (n largest : Int)
    (hpresent : t.totals.present? = some given) (htotal : Row.ofValue given = .ok total) :
    restRow? t (some n) largest = otherRow? total t.rows largest := by
  unfold restRow?
  rw [hpresent]
  simp only [htotal, bind, Except.bind]

theorem rowViews_of_rest {filters : List Filter} {nextTopN : Option Int} {counts : List Int}
    {given : List Value} {views : List RowView} {other : Option RowView} (hsome : t.rows ≠ [])
    (hlargest : t.rows.mapM (fun row => (row.get "cnt").toCount) = .ok counts)
    (hprefixes : prefixesOf t.labelPrefixes = .ok given)
    (hviews : t.rows.mapM (rowView given filters (largestOf counts)) = .ok views)
    (hother : restRow? t nextTopN (largestOf counts) = .ok other) :
    rowViews t filters nextTopN = .ok (views ++ other.toList) := by
  have hnot : t.rows.isEmpty = false := by simpa using hsome
  unfold rowViews
  rw [hnot]
  simp only [hlargest, hprefixes, hviews, bind, Except.bind, pure, Except.pure]
  rw [if_neg Bool.false_ne_true]
  unfold restRow? at hother
  cases hpresent : t.totals.present? with
  | none =>
      rw [hpresent] at hother
      obtain rfl := Except.ok.inj hother
      rw [Option.toList_none, List.append_nil]
  | some found =>
      rw [hpresent] at hother
      cases nextTopN with
      | none =>
          obtain rfl := Except.ok.inj hother
          rw [Option.toList_none, List.append_nil]
      | some n =>
          obtain ⟨total, htotal, hrow⟩ := bind_eq_ok.mp hother
          simp only [htotal, hrow]

theorem get_of_fields_nil {row : Row} (hempty : row.fields = []) (column : String) :
    row.get column = .null := by
  unfold Row.get Row.get?
  rw [hempty]
  rfl

/-- There is a row of the rest just in case the totals count beyond the rows and more
rows could be asked for. -/
theorem exists_restRow (hcounts : t.Counts prefixes totals counted) (nextTopN : Option Int)
    {largest : Int} (hlargest : largest ≠ 0) :
    ∃ other, restRow? t nextTopN largest = .ok other ∧
      (other.isSome = true ↔
        (∃ total ∈ totals, 0 < beyond counted total t.rows "cnt") ∧ nextTopN.isSome = true) ∧
      ∀ view ∈ other, view.isOther = true ∧ ∀ total ∈ totals,
        view.count = beyond counted total t.rows "cnt" := by
  have htotals := hcounts.totals_eq
  cases nextTopN with
  | none => exact ⟨none, restRow?_of_none largest (.inr rfl), by simp, by simp⟩
  | some n =>
      cases totals with
      | none =>
          have habsent : t.totals.present? = none := by
            rw [htotals]
            rfl
          exact ⟨none, restRow?_of_none largest (.inl habsent), by simp, by simp⟩
      | some total =>
          by_cases hempty : total.fields = []
          · have habsent : t.totals.present? = none := by
              rw [htotals]
              change (Value.record total.fields).present? = none
              rw [hempty]
              rfl
            have hzero : counted total "cnt" = 0 := by
              have hcount := Value.toCount_of_isCount (hcounts.totals total rfl "cnt" (by decide))
              rw [get_of_fields_nil hempty] at hcount
              exact_mod_cast (Except.ok.inj hcount).symm
            have hnothing : ¬ 0 < beyond counted total t.rows "cnt" := by
              rw [beyond_pos_iff, hzero]
              exact Nat.not_lt_zero _
            exact ⟨none, restRow?_of_none largest (.inl habsent), by simpa using hnothing, by simp⟩
          · have hpresent : t.totals.present? = some (.record total.fields) := by
              rw [htotals]
              change (Value.record total.fields).present? = _
              exact if_pos (by simpa [Value.isPresent] using hempty)
            obtain ⟨other, hother, hsome, hrest⟩ := exists_otherRow hcounts.length_lt
              (hcounts.totals total rfl) hcounts.rows hlargest
            refine ⟨other, (restRow?_of_present n largest hpresent rfl).trans hother,
              by simpa using hsome, ?_⟩
            intro view hview
            obtain ⟨hisOther, hcount⟩ := hrest view hview
            refine ⟨hisOther, ?_⟩
            rintro _ ⟨⟩
            exact hcount

theorem exists_rowViews (hcounts : t.Counts prefixes totals counted) (hsome : t.rows ≠ [])
    (nextTopN : Option Int) :
    ∃ (shown : List RowView) (other : Option RowView),
      rowViews t (t.activeFilters.filter (·.isOn t.column)) nextTopN =
        .ok (shown ++ other.toList) ∧
      List.Forall₂ (fun row view => RowView.Shows t.activeFilters t.column prefixes row
        (counted row "cnt") view) t.rows shown ∧
      (other.isSome = true ↔
        (∃ total ∈ totals, 0 < beyond counted total t.rows "cnt") ∧ nextTopN.isSome = true) ∧
      ∀ view ∈ other, view.isOther = true ∧ ∀ total ∈ totals,
        view.count = beyond counted total t.rows "cnt" := by
  have hlargest := mapM_toCount fun row hrow => hcounts.rows row hrow "cnt" (by decide)
  have hzero := largestOf_ne_zero (t.rows.map fun row => (counted row "cnt" : Int))
  obtain ⟨shown, hviews, hshows⟩ := exists_mapM fun row hrow =>
    exists_rowView t.activeFilters t.column prefixes (hcounts.rows row hrow) hzero
  obtain ⟨other, hother, hiff, hrest⟩ := exists_restRow hcounts nextTopN hzero
  exact ⟨shown, other, rowViews_of_rest hsome hlargest hcounts.prefixes hviews hother, hshows,
    hiff, hrest⟩

theorem nextTopN?_isSome_iff (topN : Number) :
    (nextTopN? topN).isSome = true ↔ ∃ option ∈ topNOptions, topN.lt (.int option) = true := by
  unfold nextTopN?
  rw [List.find?_isSome]

theorem exists_ofTable {views : List RowView} (title : Value) (topN : Number)
    (hviews : rowViews t (t.activeFilters.filter (·.isOn t.column)) (nextTopN? topN) =
      .ok views) :
    ∃ view, ofTable title topN t = .ok view ∧ view.rows = views := by
  unfold ofTable
  dsimp only
  rw [hviews]
  exact ⟨_, rfl, rfl⟩

end Tables

/-- The rows that are shown, and the row of the rest if there is one, count what rows and
totals do. -/
structure Conserves (topN : Number) (t : BreakdownTable) (prefixes : List String)
    (totals : Option Row) (counted : Row → String → Nat) (shown : List RowView)
    (other : Option RowView) : Prop where
  shows : List.Forall₂ (fun row view => RowView.Shows t.activeFilters t.column prefixes row
    (counted row "cnt") view) t.rows shown
  offered : other.isSome = true ↔ t.rows ≠ [] ∧
    (∃ total ∈ totals, countedBy counted t.rows "cnt" < counted total "cnt") ∧
    ∃ option ∈ topNOptions, topN.lt (.int option) = true
  isOther : ∀ rest ∈ other, rest.isOther = true
  total : other.isSome = true → ∀ total ∈ totals,
    ((shown ++ other.toList).map (·.count)).sum = counted total "cnt"
  own : other = none →
    ((shown ++ other.toList).map (·.count)).sum = countedBy counted t.rows "cnt"

/-- A view has a row for each row of the table, in order, and then one for what the
totals count beyond them if more rows could be asked for; so that all of them count
what the totals count, and otherwise what the rows count.  Without rows there is nothing
to be seen, whatever the totals are. -/
theorem ofTable_conserves_counts (title : Value) (topN : Number) (t : BreakdownTable)
    (prefixes : List String) (totals : Option Row) (counted : Row → String → Nat)
    (hcounts : t.rows ≠ [] → t.Counts prefixes totals counted) :
    ∃ view shown other, ofTable title topN t = .ok view ∧
      view.rows = shown ++ other.toList ∧
      Conserves topN t prefixes totals counted shown other ∧
      (t.rows = [] → view.rows = []) := by
  by_cases hempty : t.rows = []
  · have hviews : rowViews t (t.activeFilters.filter (·.isOn t.column)) (nextTopN? topN) =
        .ok [] := by
      unfold rowViews
      rw [hempty]
      rfl
    obtain ⟨view, hview, hrows⟩ := exists_ofTable title topN hviews
    refine ⟨view, [], none, hview, hrows, ?_, fun _ => hrows⟩
    constructor
    case shows =>
        rw [hempty]
        exact .nil
    case offered => simp [hempty]
    case isOther => simp
    case total => simp
    case own => simp [hempty, countedBy]
  · obtain ⟨shown, other, hviews, hshows, hiff, hrest⟩ :=
      exists_rowViews (hcounts hempty) hempty (nextTopN? topN)
    obtain ⟨view, hview, hrows⟩ := exists_ofTable title topN hviews
    have hshown := sum_count_of_shows hshows
    refine ⟨view, shown, other, hview, hrows, ?_, fun hnone => absurd hnone hempty⟩
    constructor
    case shows => exact hshows
    case offered =>
        simp only [hiff, nextTopN?_isSome_iff, beyond_pos_iff]
        exact ⟨fun h => ⟨hempty, h⟩, fun h => h.2⟩
    case isOther => exact fun rest hother => (hrest rest hother).1
    case total =>
        intro hsome total htotal
        obtain ⟨rest, rfl⟩ := Option.isSome_iff_exists.mp hsome
        have hcount := (hrest rest rfl).2 total htotal
        rw [Option.toList_some, List.map_append, List.sum_append, hshown, List.map_singleton,
          List.sum_singleton, hcount, beyond]
        omega
    case own =>
        rintro rfl
        rw [Option.toList_none, List.append_nil, hshown]

/-- Seven requests: three of one host, two of another, one of none, and one that no row
counts.  The last filter on the first host keeps it. -/
def hosts : BreakdownTable where
  breakdownId := "hosts"
  rows := [⟨[("dim", "main--a.com"), ("cnt", .int 3)]⟩, ⟨[("dim", "b.com"), ("cnt", .int 2)]⟩,
    ⟨[("dim", .null), ("cnt", .int 1)]⟩]
  totals := .record [("cnt", .int 7)]
  column := "host"
  elapsed := .int 1
  labelPrefixes := .list ["main--"]
  activeFilters := [{ column := "host", value := "main--a.com", exclude := .flag true },
    { column := "host", value := "b.com", exclude := .flag true },
    { column := "host", value := "main--a.com" }, { column := "method", value := "" }]

def hostCount (row : Row) (column : String) : Nat :=
  match row.get column with
  | .int i => i.toNat
  | _ => 0

theorem isCount_hostCount {row : Row} {n : Nat} (hcnt : row.get "cnt" = .int n)
    (hlt : n < 2 ^ 53)
    (hmissing : ∀ column ∈ ["cnt_ok", "cnt_4xx", "cnt_5xx"], row.get column = .null) :
    ∀ column ∈ Rows.countColumns, (row.get column).IsCount (hostCount row column) := by
  intro column hcolumn
  unfold hostCount
  rcases List.mem_cons.mp hcolumn with rfl | hother
  · rw [hcnt]
    exact Value.isCount_int hlt
  · rw [hmissing column hother]
    exact Value.isCount_null

theorem counts_hosts : hosts.Counts ["main--"] (some ⟨[("cnt", .int 7)]⟩) hostCount := by
  constructor
  case length_lt => decide
  case rows =>
      simp only [hosts, List.forall_mem_cons]
      exact ⟨isCount_hostCount (Eq.refl (Value.int (3 : Nat))) (by decide) (by decide),
        isCount_hostCount (Eq.refl (Value.int (2 : Nat))) (by decide) (by decide),
        isCount_hostCount (Eq.refl (Value.int (1 : Nat))) (by decide) (by decide), by simp⟩
  case totals_eq => rfl
  case totals =>
      rintro _ ⟨⟩
      exact isCount_hostCount (Eq.refl (Value.int (7 : Nat))) (by decide) (by decide)
  case prefixes => rfl

theorem ofTable_conserves_counts_hosts :
    (hosts.rows ≠ [] → hosts.Counts ["main--"] (some ⟨[("cnt", .int 7)]⟩) hostCount) ∧
      ∃ view, ofTable "Hosts" (.int 5) hosts = .ok view ∧
        view.rows.map (fun row => (row.leading, row.label, row.mark, row.count)) =
          [("main--", "a.com", some .included, 3), ("", "b.com", some .excluded, 2),
            ("", "(empty)", none, 1), ("", "(other)", none, 1)] ∧
        (view.rows.map (·.count)).sum = 7 := by
  refine ⟨fun _ => counts_hosts, ?_⟩
  obtain ⟨view, shown, other, hview, hrows, hconserves, -⟩ := ofTable_conserves_counts "Hosts"
    (.int 5) hosts ["main--"] (some ⟨[("cnt", .int 7)]⟩) hostCount fun _ => counts_hosts
  refine ⟨view, hview, ?_, ?_⟩
  · have hshown : (ofTable "Hosts" (.int 5) hosts).map (fun view =>
        view.rows.map fun row => (row.leading, row.label, row.mark, row.count)) =
          .ok [("main--", "a.com", some .included, 3), ("", "b.com", some .excluded, 2),
            ("", "(empty)", none, 1), ("", "(other)", none, 1)] := by
      decide +kernel
    rw [hview] at hshown
    exact Except.ok.inj hshown
  · have hoffered : other.isSome = true := by
      rw [hconserves.offered]
      refine ⟨by simp [hosts], ⟨_, rfl, by decide⟩, 10, by decide, by decide⟩
    rw [hrows, hconserves.total hoffered _ rfl]
    rfl

end BreakdownView

end RequestBreakdown
