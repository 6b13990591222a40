import RequestBreakdown.Load.Request
import RequestBreakdown.Proofs.Bucket.Ranges
import RequestBreakdown.Proofs.Sql.CaseText

/-!
# The expression of a partition

The expression of a partition is read as the clauses that it was made of, one branch
for each, so its value for a row is the label that the partition gives the number in
the column.
-/

namespace RequestBreakdown

open StatementToken

/-! ## The text of a partition -/

namespace BucketTest

def relation : BucketTest → NumberRelation
  | .isZero => .equal
  | .below _ => .less

def number : BucketTest → Nat
  | .isZero => 0
  | .below bound => bound

def relationText : BucketTest → String
  | .isZero => "="
  | .below _ => "<"

theorem ofText?_relationText (test : BucketTest) :
    NumberRelation.ofText? test.relationText = some test.relation := by
  cases test <;> rfl

theorem isWord_relationText (test : BucketTest) : IsWord test.relationText := by
  have hless : IsWord "<" := by decide
  cases test with
  | isZero => decide
  | below => exact hless

theorem condition_eq (column : String) (test : BucketTest) :
    test.condition column =
      column ++ " " ++ test.relationText ++ " " ++ toString test.number := by
  apply String.toList_inj.mp
  cases test <;> simp [condition, relationText, number]

theorem holds_eq (value : Nat) (test : BucketTest) :
    test.relation.holds value test.number = test.holds value := by
  cases test <;> rfl

end BucketTest

namespace Partition

variable {p : Partition} {column : String}

def branch (column : String) (clause : BucketClause) : CaseBranch :=
  ⟨column, clause.test.relation, clause.test.number, clause.label⟩

/-- What the expression for a column says. -/
def caseExpression (p : Partition) (column : String) : CaseExpression :=
  ⟨p.clauses.map (branch column), p.topLabel⟩

theorem labels_caseExpression (p : Partition) (column : String) :
    (p.caseExpression column).labels = p.labels := by
  simp [caseExpression, CaseExpression.labels, labels, branch, Function.comp_def]

theorem value_caseExpression (p : Partition) (column : String) (row : String → Nat) :
    (p.caseExpression column).value row = p.labelOf (row column) := by
  unfold CaseExpression.value caseExpression labelOf
  rw [List.find?_map]
  have hholds : (CaseBranch.holds row) ∘ branch column =
      fun clause => clause.test.holds (row column) := by
    funext clause
    exact BucketTest.holds_eq _ _
  rw [hholds]
  cases p.clauses.find? fun clause => clause.test.holds (row column) <;> rfl

def clauseWords (column : String) (clause : BucketClause) : List String :=
  ["WHEN", column, clause.test.relationText, toString clause.test.number, "THEN"]

theorem isWord_clauseWords (hcolumn : IsWord column) (clause : BucketClause) :
    ∀ word ∈ clauseWords column clause, IsWord word := by
  have hrelation := clause.test.isWord_relationText
  have hnumber := isWord_numeral clause.test.number
  have hwhen : IsWord "WHEN" := by decide
  have hthen : IsWord "THEN" := by decide
  intro word hword
  simp only [clauseWords, List.mem_cons, List.not_mem_nil, or_false] at hword
  rcases hword with rfl | rfl | rfl | rfl | rfl <;> assumption

theorem toList_clauseText {clause : BucketClause} (hlabel : NoQuote clause.label)
    (column : String) : (clauseText column clause).toList =
      spaced (clauseWords column clause) ++ (Literal.quote clause.label).toList := by
  rw [hlabel.quote_eq]
  simp [clauseText, clauseWords, spaced, clause.test.condition_eq]

theorem intercalate_append {parts : List (List Char)} (hsome : parts ≠ [])
    (separator rest : List Char) :
    separator.intercalate parts ++ (separator ++ rest) =
      parts.flatMap (· ++ separator) ++ rest := by
  induction parts with
  | nil => exact absurd rfl hsome
  | cons part later ih =>
      cases later with
      | nil => simp
      | cons next others =>
          have hlater := ih (List.cons_ne_nil _ _)
          rw [List.flatMap_cons, List.append_assoc, ← hlater]
          simp

theorem toList_expression (hsome : p.clauses ≠ []) (htop : NoQuote p.topLabel)
    (column : String) : (p.expression column).toList =
      spaced ["CASE"] ++
        (p.clauses.flatMap (fun clause => (clauseText column clause).toList ++ [' ']) ++
          (spaced ["ELSE"] ++
            ((Literal.quote p.topLabel).toList ++ ' ' :: "END".toList))) := by
  have hparts : (p.clauses.map fun clause => (clauseText column clause).toList) ≠ [] := by
    simpa using hsome
  -- The blank in front of ELSE ends the last clause, as the blanks between the
  -- clauses end the others.
  have hclauses := intercalate_append hparts [' ']
    (spaced ["ELSE"] ++ ((Literal.quote p.topLabel).toList ++ ' ' :: "END".toList))
  rw [List.flatMap_map] at hclauses
  rw [← hclauses, htop.quote_eq]
  unfold expression
  simp only [String.toList_append, String.toList_intercalate, List.map_map]
  simp [spaced, Function.comp_def]

theorem read_clauses (hcolumn : IsWord column) {clauses : List BucketClause}
    (hlabels : ∀ clause ∈ clauses, NoQuote clause.label) {rest : List Char}
    {label : String} (hrest : CaseExpression.ofBranches? (read rest) =
      some ⟨[], label⟩) :
    CaseExpression.ofBranches? (read (clauses.flatMap
        (fun clause => (clauseText column clause).toList ++ [' ']) ++ rest)) =
      some ⟨clauses.map (branch column), label⟩ := by
  induction clauses with
  | nil => exact hrest
  | cons clause later ih =>
      have hlater := ih fun other hother => hlabels other (List.mem_cons_of_mem _ hother)
      have htext := toList_clauseText (hlabels clause List.mem_cons_self) column
      rw [List.flatMap_cons, htext, List.append_assoc, List.append_assoc,
        List.append_assoc, read_spaced (isWord_clauseWords hcolumn clause),
        List.singleton_append, read_quote]
      simp only [clauseWords, List.map_cons, List.map_nil, List.cons_append,
        List.nil_append, CaseExpression.ofBranches?,
        clause.test.ofText?_relationText, CaseExpression.numeral?_toString, hlater]
      rfl

/-- The expression is read as what it says. -/
theorem read?_expression (hcolumn : IsWord column) (hsome : p.clauses ≠ [])
    (hlabels : ∀ label ∈ p.labels, NoQuote label) :
    CaseExpression.read? (p.expression column) = some (p.caseExpression column) := by
  have hclauses : ∀ clause ∈ p.clauses, NoQuote clause.label := fun clause hclause =>
    hlabels _ (List.mem_append_left _ (List.mem_map_of_mem hclause))
  have htop : NoQuote p.topLabel := hlabels _ (by simp [labels])
  have hcase : ∀ word ∈ ["CASE"], IsWord word := by decide
  have helse : ∀ word ∈ ["ELSE"], IsWord word := by decide
  have hend : read "END".toList = [.word "END"] := by decide
  have hrest : CaseExpression.ofBranches? (read (spaced ["ELSE"] ++
      ((Literal.quote p.topLabel).toList ++ ' ' :: "END".toList))) =
        some ⟨[], p.topLabel⟩ := by
    rw [read_spaced helse, read_quote, hend]
    rfl
  have hall := read_clauses hcolumn hclauses hrest
  unfold CaseExpression.read?
  rw [toList_expression hsome htop, read_spaced hcase]
  exact hall

end Partition

/-! ## Partitions of the two kinds -/

namespace RangeKind

variable (kind : RangeKind) (n : Int)

theorem clauses_ne_nil : (kind.partition n).clauses ≠ [] := by
  rw [clauses_eq]
  cases kind <;> exact List.cons_ne_nil _ _

theorem read?_expression {column : String} (hcolumn : IsWord column) :
    CaseExpression.read? ((kind.partition n).expression column) =
      some ((kind.partition n).caseExpression column) :=
  Partition.read?_expression hcolumn (kind.clauses_ne_nil n) (kind.noQuote_labels n)

/-- A query over ranges groups by an expression of the grouped value. -/
theorem bucketedQuery?_cases {r : LoadRequest} {modes : CountingModes}
    {stage : SamplingStage} {column query : String}
    (hdimension : r.breakdown.dimension = .ranges kind column)
    (hquery : r.bucketedQuery? modes stage = some query) :
    ∃ rawColumn, query = Query.bucketed
      ((kind.partition r.rangeCount).expression Query.bucketValueName) rawColumn
      (r.aggregations modes stage) stage r.condition r.topN
      r.breakdown.orderBy.shown? := by
  unfold LoadRequest.bucketedQuery? at hquery
  rw [hdimension] at hquery
  cases hraw : r.breakdown.rawColumn.shown? with
  | none => simp [hraw] at hquery
  | some rawColumn =>
      rw [hraw] at hquery
      dsimp only at hquery
      split at hquery
      · exact absurd hquery (by simp)
      · exact ⟨rawColumn, (Option.some.inj hquery).symm⟩

/-- However many ranges are asked for, their boundaries ascend, their labels differ,
and the expression of a column has for every row the label at the place of the number
in that column.  A query over ranges therefore has no label but those expected. -/
theorem partition_divides {column : String} (hcolumn : IsWord column) :
    (kind.partition n).boundaries.Pairwise (· < ·) ∧
    (kind.partition n).labels.Nodup ∧
    (kind.partition n).labels.length =
      (kind.partition n).boundaries.length + kind.surplus ∧
    (∃ e, CaseExpression.read? ((kind.partition n).expression column) = some e ∧
      e.labels = (kind.partition n).labels ∧
      ∀ row : String → Nat,
        (kind.partition n).labels[
          kind.place (kind.partition n).boundaries (row column)]? =
            some (e.value row)) ∧
    ∀ (r : LoadRequest) (modes : CountingModes) (stage : SamplingStage)
      (shown query : String), r.breakdown.dimension = .ranges kind shown →
      r.rangeCount = n → r.bucketedQuery? modes stage = some query →
      ∃ text rawColumn e, query = Query.bucketed text rawColumn
          (r.aggregations modes stage) stage r.condition r.topN
          r.breakdown.orderBy.shown? ∧
        CaseExpression.read? text = some e ∧
        (∀ b ∈ e.branches, b.column = Query.bucketValueName) ∧
        ∀ row : String → Nat, e.value row ∈ r.labels := by
  refine ⟨kind.pairwise_boundaries n, kind.nodup_labels n, kind.length_labels n, ?_, ?_⟩
  · refine ⟨_, kind.read?_expression n hcolumn,
      Partition.labels_caseExpression _ column, fun row => ?_⟩
    rw [Partition.value_caseExpression]
    exact kind.getElem?_labels_place n (row column)
  · rintro r modes stage shown query hdimension rfl hquery
    obtain ⟨rawColumn, rfl⟩ := kind.bucketedQuery?_cases hdimension hquery
    have hname : IsWord Query.bucketValueName := by decide
    refine ⟨_, rawColumn, _, rfl, kind.read?_expression r.rangeCount hname, ?_, ?_⟩
    · intro b hb
      obtain ⟨clause, -, rfl⟩ := List.mem_map.mp hb
      rfl
    · intro row
      rw [Partition.value_caseExpression]
      have hlabels : r.labels = (kind.partition r.rangeCount).labels := by
        simp [LoadRequest.labels, hdimension, Dimension.labels?]
      rw [hlabels]
      exact Partition.labelOf_mem _ _

/-- Of seven ranges of body sizes, one is for empty bodies, and one for those from one
boundary up to the next. -/
theorem partition_divides_sizes :
    IsWord "content_length" ∧
    ∃ e, CaseExpression.read?
        ((bytes.partition 7).expression "content_length") = some e ∧
      e.value (fun _ => 0) = "0 (empty)" ∧
      e.value (fun _ => 1000000) = "50 KB-2 MB" := by
  have hcolumn : IsWord "content_length" := by decide
  have hempty : (bytes.partition 7).labels[
      bytes.place (bytes.partition 7).boundaries 0]? = some "0 (empty)" := by
    decide +kernel
  have hlarge : (bytes.partition 7).labels[
      bytes.place (bytes.partition 7).boundaries 1000000]? = some "50 KB-2 MB" := by
    decide +kernel
  obtain ⟨-, -, -, ⟨e, hread, -, hvalue⟩, -⟩ := bytes.partition_divides 7 hcolumn
  refine ⟨hcolumn, e, hread, ?_, ?_⟩
  · exact (Option.some.inj (hempty.symm.trans (hvalue fun _ => 0))).symm
  · exact (Option.some.inj (hlarge.symm.trans (hvalue fun _ => 1000000))).symm

end RangeKind

end RequestBreakdown
