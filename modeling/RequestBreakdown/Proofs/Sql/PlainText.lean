import RequestBreakdown.Breakdown.Catalog
import RequestBreakdown.Proofs.Sql.Parallel
import RequestBreakdown.Sql.Query
import RequestBreakdown.Time.Window

/-!
# The fixed parts of statements

Apart from the values of filters a statement holds numbers, times, names of
tables, labels of ranges and expressions of the catalog.  None of the first
four has a quote in it but those around it, and every expression closes the
literals that it opens.
-/

namespace RequestBreakdown

def NoQuote (s : String) : Prop := '\'' ∉ s.toList

instance (s : String) : Decidable (NoQuote s) :=
  inferInstanceAs (Decidable (¬ _))

theorem NoQuote.closed {s : String} (hs : NoQuote s) : Lexeme.Closed s.toList :=
  Lexeme.closed_of_noQuote hs

theorem NoQuote.apart {s : String} (hs : NoQuote s) (b : List Char) :
    Lexeme.Apart s.toList b :=
  .inl fun hlast => hs (List.mem_of_mem_getLast? hlast)

@[simp] theorem noQuote_append {s t : String} :
    NoQuote (s ++ t) ↔ NoQuote s ∧ NoQuote t := by
  simp [NoQuote]

theorem NoQuote.quote_eq {s : String} (hs : NoQuote s) :
    Literal.quote s = "'" ++ s ++ "'" := by
  have hdouble : ∀ cs : List Char, '\'' ∉ cs → Literal.doubleQuotes cs = cs := by
    intro cs hcs
    induction cs with
    | nil => rfl
    | cons c rest ih =>
        simp only [List.mem_cons, not_or] at hcs
        have hc : c ≠ '\'' := fun h => hcs.1 h.symm
        have hrest := ih hcs.2
        simp only [Literal.doubleQuotes, List.flatMap_cons, if_neg hc,
          List.singleton_append] at hrest ⊢
        rw [hrest]
  apply String.toList_inj.mp
  simp [Literal.quote, hdouble s.toList hs]

/-! ## Numbers and times -/

theorem noQuote_nat (n : Nat) : NoQuote (toString n) := by
  intro hmem
  rw [Nat.toString_eq_ofList_toDigits, String.toList_ofList] at hmem
  have hdigit := Nat.isDigit_of_mem_toDigits (by decide) (by decide) hmem
  exact absurd hdigit (by decide)

theorem noQuote_int (i : Int) : NoQuote (toString i) := by
  rw [Int.toString_eq_repr, Int.repr_eq_if]
  split
  · exact noQuote_nat _
  · exact noQuote_append.mpr ⟨by decide, noQuote_nat _⟩

theorem Timestamp.noQuote_padded (width n : Nat) : NoQuote (padded width n) := by
  have hzeros : ∀ k, NoQuote ("".pushn '0' k) := by
    intro k
    rw [String.pushn_eq_repeat_push]
    induction k with
    | zero => decide
    | succ k ih => simpa [Nat.repeat, NoQuote] using ih
  exact noQuote_append.mpr ⟨hzeros _, noQuote_nat n⟩

theorem Timestamp.noQuote_literalText (t : Timestamp) : NoQuote t.literalText := by
  simp only [literalText, clockText, noQuote_append]
  refine ⟨⟨⟨⟨⟨⟨noQuote_nat _, by decide⟩, noQuote_padded _ _⟩, by decide⟩,
    noQuote_padded _ _⟩, by decide⟩, ⟨⟨⟨noQuote_padded _ _, by decide⟩,
    noQuote_padded _ _⟩, by decide⟩, noQuote_padded _ _⟩

/-! ## Expressions -/

theorem NoQuote.closed_append_literal {before s : String}
    (hbefore : NoQuote before) (hs : NoQuote s) :
    Lexeme.Closed (before ++ ("'" ++ s ++ "'")).toList := by
  rw [← hs.quote_eq, String.toList_append]
  exact hbefore.closed.append (Lexeme.closed_quote s) (hbefore.apart _)

theorem TimeWindow.closed_condition (w : TimeWindow) :
    Lexeme.Closed w.condition.toList := by
  have hstart := w.start.noQuote_literalText
  have hstop := w.stop.noQuote_literalText
  have htext : w.condition =
      "timestamp >= TIMESTAMP " ++ ("'" ++ w.start.literalText ++ "'") ++
        " AND timestamp < TIMESTAMP " ++ ("'" ++ w.stop.literalText ++ "'") := by
    apply String.toList_inj.mp
    simp [condition]
  have hfrom : NoQuote "timestamp >= TIMESTAMP " := by decide
  have huntil : NoQuote " AND timestamp < TIMESTAMP " := by decide
  have hfront := hfrom.closed_append_literal hstart
  have hback := huntil.closed_append_literal hstop
  rw [htext, String.append_assoc, String.toList_append]
  exact hfront.append hback (.inr (by simp))

theorem BucketTest.noQuote_condition {column : String} (hcolumn : NoQuote column)
    (test : BucketTest) : NoQuote (test.condition column) := by
  cases test with
  | isZero => exact noQuote_append.mpr ⟨hcolumn, by decide⟩
  | below bound =>
      exact noQuote_append.mpr
        ⟨noQuote_append.mpr ⟨hcolumn, by decide⟩, noQuote_nat bound⟩

namespace Partition

theorem closed_clauseText {column : String} (hcolumn : NoQuote column)
    {clause : BucketClause} (hlabel : NoQuote clause.label) :
    Lexeme.Closed (clauseText column clause).toList := by
  have htext : clauseText column clause =
      "WHEN " ++ clause.test.condition column ++ " THEN " ++
        ("'" ++ clause.label ++ "'") := by
    apply String.toList_inj.mp
    simp [clauseText]
  rw [htext]
  apply NoQuote.closed_append_literal _ hlabel
  simp only [noQuote_append]
  exact ⟨⟨by decide, clause.test.noQuote_condition hcolumn⟩, by decide⟩

/-- The expression of a partition leaves no literal open if none of its labels
has a quote. -/
theorem closed_expression {p : Partition} {column : String}
    (hcolumn : NoQuote column)
    (hlabels : ∀ label ∈ p.labels, NoQuote label) :
    Lexeme.Closed (p.expression column).toList := by
  have hclauses : Lexeme.Closed
      (" ".intercalate (p.clauses.map (clauseText column))).toList := by
    rw [String.toList_intercalate, List.map_map]
    apply Lexeme.Closed.intercalate (by decide)
    intro clause hclause
    exact closed_clauseText hcolumn
      (hlabels _ (List.mem_append_left _ (List.mem_map_of_mem hclause)))
  have helse : NoQuote " ELSE " := by decide
  have htop := helse.closed_append_literal
    (hlabels p.topLabel (by simp [labels]))
  have htext : p.expression column =
      "CASE " ++ (" ".intercalate (p.clauses.map (clauseText column)) ++
        (" ELSE " ++ ("'" ++ p.topLabel ++ "'") ++ " END")) := by
    apply String.toList_inj.mp
    simp [expression]
  rw [htext, String.toList_append, String.toList_append, String.toList_append]
  have hend := htop.append (b := " END".toList) (by decide) (.inr (by decide))
  have hrest := hclauses.append hend (.inr (by simp))
  exact Lexeme.Closed.append (by decide) hrest (.inl (by decide))

theorem noQuote_rangesBetween {label : Nat → String} {boundaries : List Nat}
    (hlabel : ∀ b ∈ boundaries, NoQuote (label b)) :
    ∀ clause ∈ rangesBetween label boundaries, NoQuote clause.label := by
  intro clause hclause
  obtain ⟨⟨low, high⟩, hmem, rfl⟩ := List.mem_map.mp hclause
  obtain ⟨hlow, hhigh⟩ := List.of_mem_zip hmem
  simp only [noQuote_append]
  exact ⟨⟨hlabel low hlow, by decide⟩, hlabel high (List.mem_of_mem_tail hhigh)⟩

theorem noQuote_openLabel {label : Nat → String} {boundaries : List Nat}
    (hlabel : ∀ b ∈ 0 :: boundaries, NoQuote (label b)) :
    NoQuote (openLabel label boundaries) := by
  refine noQuote_append.mpr ⟨by decide, hlabel _ ?_⟩
  cases boundaries with
  | nil => simp
  | cons b rest =>
      rw [List.getLastD_cons, List.getLastD_eq_getLast?]
      cases hlast : rest.getLast? with
      | none => simp
      | some c => simp [List.mem_of_getLast? hlast]

end Partition

/-! ## Labels -/

namespace Boundary

theorem mem_of_mem_select {candidates : List Nat} {count : Int} {b : Nat}
    (hb : b ∈ select candidates count) : b ∈ candidates := by
  unfold select at hb
  split at hb
  · exact hb
  · split at hb
    · exact List.mem_of_getLast? (Option.mem_toList.mp hb)
    · obtain ⟨i, -, hi⟩ := List.mem_filterMap.mp hb
      exact List.mem_of_getElem? hi

theorem byteCandidates_eq : byteCandidates =
    [10, 20, 50, 100, 200, 500, 1000, 2000, 5000, 10000, 20000, 50000, 100000,
      200000, 500000, 1000000, 2000000, 5000000, 10000000, 20000000, 50000000,
      100000000] := by
  simp [byteCandidates, progression, decades]

theorem noQuote_bytes :
    ∀ b ∈ 0 :: byteCandidates, NoQuote (Label.ofBoundary Label.bytes b) := by
  rw [byteCandidates_eq]
  decide +kernel

theorem noQuote_millis :
    ∀ b ∈ 0 :: durationCandidates,
      NoQuote (Label.ofBoundary Label.millis b) := by
  decide +kernel

theorem noQuote_select {candidates : List Nat} {label : Nat → String}
    (hlabel : ∀ b ∈ 0 :: candidates, NoQuote (label b)) (count : Int) :
    ∀ b ∈ 0 :: select candidates count, NoQuote (label b) := by
  intro b hb
  rcases List.mem_cons.mp hb with rfl | hb
  · exact hlabel 0 List.mem_cons_self
  · exact hlabel b (List.mem_cons_of_mem _ (mem_of_mem_select hb))

theorem headD_mem (boundaries : List Nat) :
    boundaries.headD 0 ∈ 0 :: boundaries := by
  cases boundaries <;> simp

end Boundary

/-- However many ranges there are, no label of one has a quote. -/
theorem RangeKind.noQuote_labels (kind : RangeKind) (n : Int) :
    ∀ label ∈ (kind.partition n).labels, NoQuote label := by
  intro label hlabel
  cases kind with
  | bytes =>
      have hall := Boundary.noQuote_select Boundary.noQuote_bytes
        (max 1 (n - Partition.bytesApart))
      have hfirst := hall _ (Boundary.headD_mem _)
      have hbetween := Partition.noQuote_rangesBetween fun b hb =>
        hall b (List.mem_cons_of_mem _ hb)
      simp only [partition, Partition.bytes, Partition.labels, List.map_cons,
        List.mem_append, List.mem_cons, List.mem_map, List.not_mem_nil,
        or_false] at hlabel
      rcases hlabel with (rfl | rfl | ⟨clause, hclause, rfl⟩) | rfl
      · decide
      · exact noQuote_append.mpr ⟨by decide, hfirst⟩
      · exact hbetween clause hclause
      · exact Partition.noQuote_openLabel hall
  | durations =>
      have hall := Boundary.noQuote_select Boundary.noQuote_millis
        (max 1 (n - Partition.durationsApart))
      have hfirst := hall _ (Boundary.headD_mem _)
      have hbetween := Partition.noQuote_rangesBetween fun b hb =>
        hall b (List.mem_cons_of_mem _ hb)
      simp only [partition, Partition.durations, Partition.labels,
        List.map_cons, List.mem_append, List.mem_cons, List.mem_map,
        List.not_mem_nil, or_false] at hlabel
      rcases hlabel with (rfl | ⟨clause, hclause, rfl⟩) | rfl
      · exact noQuote_append.mpr ⟨by decide, hfirst⟩
      · exact hbetween clause hclause
      · exact Partition.noQuote_openLabel hall

theorem RangeKind.closed_expression (kind : RangeKind) (n : Int)
    {column : String} (hcolumn : NoQuote column) :
    Lexeme.Closed ((kind.partition n).expression column).toList :=
  Partition.closed_expression hcolumn (kind.noQuote_labels n)

/-! ## The catalog -/

/-- The expression of a dimension, or the column that it cuts into ranges. -/
def Dimension.text : Dimension → String
  | .expression value => value.display
  | .ranges _ column => column

namespace Breakdown

def texts (b : Breakdown) : List String := [
  b.dimension.text, b.filterColumn.display, b.rawColumn.display,
  b.extraPredicate.display, b.orderBy.display, b.summaryPredicate.display]

theorem closed_texts :
    ∀ b ∈ all, ∀ text ∈ b.texts, Lexeme.Closed text.toList := by
  decide +kernel

theorem noQuote_rangeColumn :
    ∀ b ∈ all, b.isBucketed = true → NoQuote b.dimension.text := by
  decide +kernel

theorem closed_column {b : Breakdown} (hb : b ∈ all) (topN : Int) :
    Lexeme.Closed (b.column topN).display.toList := by
  have hbucketed := noQuote_rangeColumn b hb
  have htext := closed_texts b hb b.dimension.text (by simp [texts])
  unfold column
  unfold isBucketed at hbucketed
  cases hdimension : b.dimension with
  | expression value =>
      rw [hdimension] at htext
      exact htext
  | ranges kind name =>
      rw [hdimension] at hbucketed
      exact kind.closed_expression topN (hbucketed rfl)

theorem closed_shown {b : Breakdown} (hb : b ∈ all) {value : Value}
    (hvalue : value.display ∈ b.texts) {text : String}
    (hshown : value.shown? = some text) : Lexeme.Closed text.toList := by
  unfold Value.shown? at hshown
  obtain ⟨other, hpresent, rfl⟩ := Option.map_eq_some_iff.mp hshown
  unfold Value.present? at hpresent
  split at hpresent
  · rw [← Option.some.inj hpresent]
    exact closed_texts b hb _ hvalue
  · exact absurd hpresent (by simp)

end Breakdown

end RequestBreakdown
