import Mathlib.Data.List.Sort
import RequestBreakdown.Result.Ranking

/-!
# Rows in the order of their counts

Rows with integer counts can be compared: a higher count comes first, and of equal
counts the group whose text is less.  Ranking sorts by this order and keeps rows
that are equal in it as they came.
-/

namespace RequestBreakdown

/-- Values that make up rows are records. -/
theorem Row.items_of_listOf {given : Value} {rows : List Row}
    (hrows : listOf given = .ok rows) : given.items = .ok (rows.map Row.value) := by
  have hrecords : ∀ (items : List Value) (rows : List Row),
      items.mapM ofValue = .ok rows → items = rows.map Row.value := by
    intro items
    induction items with
    | nil =>
        intro rows hnone
        obtain rfl : [] = rows := Except.ok.inj hnone
        rfl
    | cons item rest ih =>
        intro rows hsome
        rw [List.mapM_cons] at hsome
        cases item with
        | record fields =>
            cases hrest : rest.mapM ofValue with
            | error fault =>
                simp [hrest, ofValue, bind, Except.bind] at hsome
            | ok others =>
                rw [hrest] at hsome
                obtain rfl : ⟨fields⟩ :: others = rows := Except.ok.inj hsome
                rw [ih others hrest]
                rfl
        | _ => simp [ofValue, bind, Except.bind] at hsome
  unfold listOf at hrows
  cases hitems : given.items with
  | error fault => simp [hitems, bind, Except.bind] at hrows
  | ok items =>
      rw [hitems] at hrows
      rw [hrecords items rows hrows]

namespace Rows

/-- The count of a row, where that is an integer; a row without a count has zero. -/
def integerCount (row : Row) : Int :=
  match countOrZero row "cnt" with
  | .int i => i
  | _ => 0

def HasIntegerCount (row : Row) : Prop := ∃ i, countOrZero row "cnt" = .int i

def inCountOrder (a b : Row) : Bool :=
  decide (integerCount b < integerCount a) ||
    (integerCount a == integerCount b &&
      decide (groupText a ≤ groupText b))

theorem inCountOrder_iff {a b : Row} : inCountOrder a b = true ↔
    integerCount b < integerCount a ∨
      (integerCount a = integerCount b ∧ groupText a ≤ groupText b) := by
  simp [inCountOrder]

theorem inCountOrder_trans (a b c : Row) (hfirst : inCountOrder a b = true)
    (hthen : inCountOrder b c = true) : inCountOrder a c = true := by
  rw [inCountOrder_iff] at *
  rcases hfirst with hlt | ⟨heq, hle⟩
  · rcases hthen with hlt' | ⟨heq', -⟩
    · exact .inl (hlt'.trans hlt)
    · exact .inl (heq' ▸ hlt)
  · rcases hthen with hlt' | ⟨heq', hle'⟩
    · exact .inl (heq ▸ hlt')
    · exact .inr ⟨heq.trans heq', String.le_trans hle hle'⟩

theorem inCountOrder_total (a b : Row) :
    (inCountOrder a b || inCountOrder b a) = true := by
  rw [Bool.or_eq_true, inCountOrder_iff, inCountOrder_iff]
  rcases Int.lt_trichotomy (integerCount a) (integerCount b) with hlt | heq | hgt
  · exact .inr (.inl hlt)
  · rcases String.le_total (groupText a) (groupText b) with hle | hle
    · exact .inl (.inr ⟨heq, hle⟩)
    · exact .inr (.inr ⟨heq.symm, hle⟩)
  · exact .inl (.inl hgt)

theorem pairwise_sorted (rows : List Row) :
    (rows.mergeSort inCountOrder).Pairwise (inCountOrder · · = true) :=
  List.pairwise_mergeSort inCountOrder_trans inCountOrder_total rows

theorem ranked_eq {row : Row} (hcount : HasIntegerCount row) :
    ranked row = .ok ((.int (integerCount row), groupText row), row) := by
  obtain ⟨i, hi⟩ := hcount
  simp [ranked, rankKey, integerCount, hi, Value.number?, Except.map]

theorem ranksBefore_int (m n : Int) (s t : String) :
    (!ranksBefore (.int n, t) (.int m, s)) = true ↔ n < m ∨ (m = n ∧ s ≤ t) := by
  have hequal : (Number.int n).eqv (.int m) = decide (n = m) := by
    rw [Bool.eq_iff_iff]
    simp [Number.eqv, Number.compare?, Number.counted]
  have htext : (!decide (t < s)) = true ↔ s ≤ t := by
    rw [Bool.not_eq_true', decide_eq_false_iff_not]
    exact String.not_lt
  have hcount : (!decide (m < n)) = true ↔ n ≤ m := by
    rw [Bool.not_eq_true', decide_eq_false_iff_not]
    exact Int.not_lt
  unfold ranksBefore
  rw [hequal, Number.int_lt_int]
  by_cases hsame : n = m
  · rw [if_pos (decide_eq_true hsame), htext]
    exact ⟨fun hle => .inr ⟨hsame.symm, hle⟩,
      fun hor => hor.elim (fun hlt => absurd hsame (Int.ne_of_lt hlt)) (·.2)⟩
  · rw [if_neg (by simpa using hsame), hcount]
    exact ⟨fun hle => .inl (Int.lt_iff_le_and_ne.mpr ⟨hle, hsame⟩),
      fun hor => hor.elim Int.le_of_lt fun heq => absurd heq.1.symm hsame⟩

/-- What a row is ranked with. -/
def rankedRow (row : Row) : RankedRow :=
  ((.int (integerCount row), groupText row), row)

theorem sortRanked_eq (rows : List Row) :
    sortRanked (rows.map rankedRow) = rows.mergeSort inCountOrder := by
  have hnumbers : ((rows.map rankedRow).all fun entry =>
      entry.1.1.eqv entry.1.1) = true := by
    simp [rankedRow, Number.eqv, Number.compare?, Number.counted]
  have horder : ∀ a ∈ rows.map rankedRow, ∀ b ∈ rows.map rankedRow,
      (!ranksBefore b.1 a.1) = inCountOrder a.2 b.2 := by
    intro a ha b hb
    obtain ⟨row, -, rfl⟩ := List.mem_map.mp ha
    obtain ⟨other, -, rfl⟩ := List.mem_map.mp hb
    rw [Bool.eq_iff_iff, inCountOrder_iff]
    exact ranksBefore_int ..
  unfold sortRanked
  rw [if_pos hnumbers, List.map_mergeSort horder, List.map_map]
  have hrows : rows.map ((·.2) ∘ rankedRow) = rows := List.map_id rows
  rw [hrows]

theorem mapM_ranked {rows : List Row} (hcounts : ∀ row ∈ rows, HasIntegerCount row) :
    (rows.map Row.value).mapM (fun given => do ranked (← Row.ofValue given)) =
      .ok (rows.map rankedRow) := by
  induction rows with
  | nil => rfl
  | cons row rest ih =>
      have hrow := ranked_eq (hcounts row List.mem_cons_self)
      have hrest := ih fun other hother => hcounts other (List.mem_cons_of_mem _ hother)
      rw [List.map_cons, List.mapM_cons, hrest]
      simp only [Row.value, Row.ofValue, bind, Except.bind, hrow]
      rfl

/-- Rows with integer counts are ranked by sorting them. -/
theorem rankItems_eq {given : Value} {rows : List Row}
    (hrows : Row.listOf given = .ok rows) (hcounts : ∀ row ∈ rows, HasIntegerCount row) :
    rankItems given = .ok (rows.mergeSort inCountOrder) := by
  have hitems := Row.items_of_listOf hrows
  unfold rankItems
  rw [hitems, ← sortRanked_eq]
  simp only [bind, Except.bind, pure]
  have hranked := mapM_ranked hcounts
  simp only [bind, Except.bind] at hranked
  rw [hranked]
  rfl

/-! ## Totals -/

/-- The counts of the totals, if there are totals, are integers. -/
def HasIntegerTotals (totals : Value) : Prop :=
  ∀ given, totals.present? = some given → ∃ row, Row.ofValue given = .ok row ∧
    HasIntegerCount row ∧
      (row.get summaryColumn = .null ∨ ∃ i, row.get summaryColumn = .int i)

theorem div_int (m : Int) {n : Int} (hn : n ≠ 0) :
    (∃ ratio, (Number.int m).div (.int n) = .ok ratio) ∨
      (Number.int m).div (.int n) = .error (.range .quotient) := by
  unfold Number.div
  simp only [Number.counted, if_neg hn]
  split
  · exact .inl ⟨_, rfl⟩
  · exact .inr rfl

/-- The share of the summary can be computed from integers, unless it is too large. -/
theorem summaryRatio_cases {totals : Value} (htotals : HasIntegerTotals totals) :
    (∃ ratio, summaryRatio totals = .ok ratio) ∨
      summaryRatio totals = .error (.range .quotient) := by
  cases hpresent : totals.present? with
  | none =>
      refine .inl ⟨none, ?_⟩
      unfold summaryRatio
      rw [hpresent]
      rfl
  | some given =>
      obtain ⟨row, hrow, ⟨n, hn⟩, hsummary⟩ := htotals given hpresent
      by_cases hcount : (Number.int n).le (.int 0) = true
      · refine .inl ⟨none, ?_⟩
        simp [summaryRatio, hpresent, hrow, hn, Value.number?, hcount, bind, Except.bind,
          pure, Except.pure]
      · rcases hsummary with hnull | ⟨m, hm⟩
        · refine .inl ⟨none, ?_⟩
          simp [summaryRatio, hpresent, hrow, hn, Value.number?, hcount, hnull, bind,
            Except.bind, pure, Except.pure]
        · have hnonzero : n ≠ 0 := by
            rintro rfl
            exact hcount (by decide)
          have hdivision : summaryRatio totals =
              ((Number.int m).div (.int n)).map some := by
            simp [summaryRatio, hpresent, hrow, hn, Value.number?, hcount, hm, bind,
              Except.bind, pure, Except.pure]
            cases (Number.int m).div (.int n) <;> rfl
          rcases div_int m hnonzero with ⟨ratio, hratio⟩ | hfault
          · exact .inl ⟨some ratio, by rw [hdivision, hratio]; rfl⟩
          · exact .inr (by rw [hdivision, hfault]; rfl)

end Rows

end RequestBreakdown
