import RequestBreakdown.Proofs.Bucket.Count
import RequestBreakdown.Proofs.Bucket.Expression

/-!
# The expressions of the numbers offered

The expression of a partition says which column is cut and into how many ranges, so
two numbers have the same expression only where they lead to as many ranges.  An
expression is therefore that of one of the numbers offered where the number is offered,
and from the most ranges on.
-/

namespace RequestBreakdown

attribute [ext] Partition

namespace RangeKind

variable {kind other : RangeKind} {n m : Int} {column otherColumn : String}

theorem caseExpression_of_expression_eq (hcolumn : IsWord column)
    (hother : IsWord otherColumn)
    (hsame : (kind.partition n).expression column =
      (other.partition m).expression otherColumn) :
    (kind.partition n).caseExpression column =
      (other.partition m).caseExpression otherColumn := by
  have hread := kind.read?_expression n hcolumn
  rw [hsame, other.read?_expression m hother] at hread
  exact (Option.some.inj hread).symm

theorem column_of_expression_eq (hcolumn : IsWord column) (hother : IsWord otherColumn)
    (hsame : (kind.partition n).expression column =
      (other.partition m).expression otherColumn) : column = otherColumn := by
  have hcase := caseExpression_of_expression_eq hcolumn hother hsame
  obtain ⟨clause, later, hclauses⟩ := List.exists_cons_of_ne_nil (kind.clauses_ne_nil n)
  obtain ⟨first, rest, hothers⟩ := List.exists_cons_of_ne_nil (other.clauses_ne_nil m)
  rw [Partition.caseExpression, Partition.caseExpression, hclauses, hothers] at hcase
  simp only [List.map_cons, CaseExpression.mk.injEq, List.cons.injEq] at hcase
  exact congrArg CaseBranch.column hcase.1.1

theorem length_of_expression_eq (hcolumn : IsWord column)
    (hsame : (kind.partition n).expression column = (kind.partition m).expression column) :
    max kind.fewest (min n kind.most) = max kind.fewest (min m kind.most) := by
  have hcase := caseExpression_of_expression_eq hcolumn hcolumn hsame
  have hlabels := congrArg CaseExpression.labels hcase
  rw [Partition.labels_caseExpression, Partition.labels_caseExpression] at hlabels
  rw [← length_labels_eq, ← length_labels_eq, hlabels]

theorem partition_of_boundaries_eq
    (hsame : (kind.partition n).boundaries = (kind.partition m).boundaries) :
    kind.partition n = kind.partition m := by
  have hclauses : (kind.partition n).clauses = (kind.partition m).clauses := by
    rw [kind.clauses_eq n, hsame, ← kind.clauses_eq m]
  have htop : (kind.partition n).topLabel = (kind.partition m).topLabel := by
    rw [kind.topLabel_eq n, hsame, ← kind.topLabel_eq m]
  exact Partition.ext hclauses htop hsame

theorem boundaries_of_most_le (hn : kind.most ≤ n) :
    (kind.partition n).boundaries = kind.candidates := by
  rw [most_eq] at hn
  rw [boundaries_eq_select, Boundary.select, if_pos (by omega)]

/-- The expression for a number is that of one of the numbers offered just where the
number is offered, or large enough for all ranges. -/
theorem exists_offered_iff (hcolumn : IsWord column) :
    (∃ m ∈ topNOptions, (kind.partition m).expression column =
      (kind.partition n).expression column) ↔ n ∈ topNOptions ∨ kind.most ≤ n := by
  constructor
  · rintro ⟨m, hm, hsame⟩
    have hlength := length_of_expression_eq hcolumn hsame
    simp only [topNOptions, List.mem_cons, List.not_mem_nil, or_false] at hm ⊢
    rcases kind with _ | _ <;> simp only [fewest, most] at hlength ⊢ <;> omega
  · rintro (hn | hn)
    · exact ⟨n, hn, rfl⟩
    · have hlarge : kind.most ≤ 100 := by cases kind <;> decide
      have hboundaries := (boundaries_of_most_le hlarge).trans (boundaries_of_most_le hn).symm
      exact ⟨100, by decide, by rw [partition_of_boundaries_eq hboundaries]⟩

end RangeKind

end RequestBreakdown
