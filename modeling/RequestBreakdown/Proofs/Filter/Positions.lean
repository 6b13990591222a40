import RequestBreakdown.Proofs.Filter.Groups
import RequestBreakdown.Proofs.Sql.PlainText

/-!
# Filters by position

Which filters are accepted, and where their values come to stand, does not
depend on the values.  The filters with their positions in place of their
values are the same for any two lists that differ in values only, and the
condition of such a list is the condition of the positions with each value at
the place of its position.
-/

namespace RequestBreakdown

namespace Filter

/-- What a filter is but for its value. -/
def frame (f : Filter) : Filter :=
  { f with value := .null, filterValue := .null }

/-- The filter with its position for a value. -/
def numbered (position : Nat) (f : Filter) : Filter :=
  { f with value := .int position, filterValue := .null }

def numberAll (filters : List Filter) : List Filter :=
  filters.zipIdx.map fun entry => entry.1.numbered entry.2

theorem numberAll_eq {filters others : List Filter}
    (hframe : filters.map frame = others.map frame) :
    numberAll filters = numberAll others := by
  have hnumber : ∀ fs : List Filter, numberAll fs =
      (fs.map frame).zipIdx.map fun entry => entry.1.numbered entry.2 := by
    intro fs
    rw [List.zipIdx_map, List.map_map]
    rfl
  rw [hnumber, hnumber, hframe]

/-- A filter made of texts; what it can do without may be null. -/
structure OfTexts (f : Filter) : Prop where
  column : ∃ s, f.column = .text s
  filterColumn : f.filterColumn = .null ∨ ∃ s, f.filterColumn = .text s
  value : ∃ s, f.value = .text s
  filterValue : f.filterValue = .null ∨ ∃ s, f.filterValue = .text s

theorem OfTexts.exists_sqlColumn {f : Filter} (hf : f.OfTexts) :
    ∃ s, f.sqlColumn = .text s := by
  obtain ⟨s, hs⟩ := hf.column
  unfold sqlColumn Value.orElse Value.present?
  split
  · rcases hf.filterColumn with hnull | ⟨t, ht⟩
    · rename_i hpresent
      simp [hnull, Value.isPresent] at hpresent
    · exact ⟨t, ht⟩
  · exact ⟨s, hs⟩

theorem OfTexts.exists_sqlValue {f : Filter} (hf : f.OfTexts) :
    ∃ s, f.sqlValue = .text s := by
  unfold sqlValue
  split
  · exact hf.value
  · rcases hf.filterValue with hnull | htext
    · contradiction
    · exact htext

/-- The text that the filter at a position tests for. -/
def testedText (filters : List Filter) (position : Nat) : String :=
  (filters[position]?.map (·.sqlValue.display)).getD ""

theorem sqlValue_eq_testedText {filters : List Filter}
    (hfilters : ∀ f ∈ filters, f.OfTexts) :
    ∀ entry ∈ filters.zipIdx,
      entry.1.sqlValue = .text (testedText filters entry.2) := by
  intro entry hentry
  have hget := List.mem_zipIdx_iff_getElem?.mp hentry
  obtain ⟨s, hs⟩ := (hfilters entry.1 (List.mem_of_getElem? hget)).exists_sqlValue
  simp [testedText, hget, hs, Value.display]

end Filter

namespace Comparison

def position (c : Comparison) : Nat :=
  match c.value with
  | .int i => i.toNat
  | _ => 0

def put (values : Nat → String) (c : Comparison) : Comparison :=
  { c with value := .text (values c.position) }

end Comparison

def Contribution.put (values : Nat → String) (a : Contribution) : Contribution :=
  { a with comparison := a.comparison.put values }

namespace FilterGroup

def put (values : Nat → String) (g : FilterGroup) : FilterGroup :=
  { g with
    includes := g.includes.map (·.put values)
    excludes := g.excludes.map (·.put values) }

def positions (g : FilterGroup) : List Nat := g.comparisons.map (·.position)

theorem put_insert (values : Nat → String) (g : FilterGroup) (exclude : Bool)
    (c : Comparison) :
    (g.insert exclude c).put values = (g.put values).insert exclude (c.put values) := by
  cases exclude <;> simp [insert, put]

end FilterGroup

namespace FilterPredicate

theorem contribution?_eq_put (allowed : List String) {f : Filter}
    {values : Nat → String} {position : Nat}
    (hvalue : f.sqlValue = .text (values position)) :
    contribution? allowed f =
      (contribution? allowed (f.numbered position)).map (·.put values) := by
  have hcolumn : (f.numbered position).sqlColumn = f.sqlColumn := rfl
  have hoperator : (f.numbered position).filterOperator = f.filterOperator := rfl
  have hnumber : (f.numbered position).sqlValue = .int position := by
    simp [Filter.numbered, Filter.sqlValue]
  unfold contribution? check
  rw [hcolumn, hoperator, hnumber, hvalue]
  cases f.sqlColumn.text?.filter allowed.contains with
  | none => rfl
  | some column =>
      cases f.filterOperator.text?.bind FilterOperator.ofText? with
      | none => rfl
      | some operator => rfl

theorem position_contribution? (allowed : List String) (f : Filter)
    (position : Nat) :
    (contribution? allowed (f.numbered position)).map
        (·.comparison.position) =
      if (contribution? allowed f).isSome then some position else none := by
  have hcolumn : (f.numbered position).sqlColumn = f.sqlColumn := rfl
  have hoperator : (f.numbered position).filterOperator = f.filterOperator := rfl
  have hnumber : (f.numbered position).sqlValue = .int position := by
    simp [Filter.numbered, Filter.sqlValue]
  unfold contribution? check
  rw [hcolumn, hoperator, hnumber]
  cases f.sqlColumn.text?.filter allowed.contains with
  | none => rfl
  | some column =>
      cases f.filterOperator.text?.bind FilterOperator.ofText? with
      | none => rfl
      | some operator => rfl

theorem contributions_eq_put (allowed : List String) {values : Nat → String}
    (entries : List (Filter × Nat))
    (hvalues : ∀ entry ∈ entries, entry.1.sqlValue = .text (values entry.2)) :
    contributions allowed (entries.map (·.1)) =
      (contributions allowed
        (entries.map fun entry => entry.1.numbered entry.2)).map
        (·.put values) := by
  unfold contributions
  rw [List.filterMap_map, List.filterMap_map, List.map_filterMap]
  apply List.filterMap_congr
  intro entry hentry
  exact contribution?_eq_put allowed (hvalues entry hentry)

theorem insertComparison_put (values : Nat → String) (groups : List FilterGroup)
    (column : String) (exclude : Bool) (c : Comparison) :
    insertComparison (groups.map (·.put values)) column exclude (c.put values) =
      (insertComparison groups column exclude c).map (·.put values) := by
  induction groups with
  | nil =>
      have hnew := FilterGroup.put_insert values { column } exclude c
      simp only [insertComparison, List.map_nil, List.map_cons, hnew]
      rfl
  | cons g rest ih =>
      by_cases hg : g.column = column
      · have hcolumn : (g.put values).column = column := hg
        simp only [List.map_cons, insertComparison, if_pos hcolumn, if_pos hg,
          FilterGroup.put_insert]
      · simpa [insertComparison, FilterGroup.put, hg] using ih

theorem gather_put (values : Nat → String) (cs : List Contribution) :
    gather (cs.map (·.put values)) = (gather cs).map (·.put values) := by
  have hfrom : ∀ groups : List FilterGroup,
      gatherInto (groups.map (·.put values)) (cs.map (·.put values)) =
        (gatherInto groups cs).map (·.put values) := by
    induction cs with
    | nil => exact fun _ => rfl
    | cons a rest ih =>
        intro groups
        have hinsert := insertComparison_put values groups a.column a.excludes
          a.comparison
        rw [List.map_cons, gatherInto, List.foldl_cons]
        simp only [Contribution.put, hinsert]
        exact ih _
  exact hfrom []

end FilterPredicate

/-! ## Parallel conditions -/

open Lexeme

variable {u v : Nat → String}

theorem parallel_comparison {column operator : String}
    (hcolumn : Closed column.toList) (hoperator : NoQuote operator)
    (position : Nat) :
    Parallel u v [position]
      (column ++ " " ++ operator ++ " " ++
        Literal.ofValue (.text (u position))).toList
      (column ++ " " ++ operator ++ " " ++
        Literal.ofValue (.text (v position))).toList := by
  have hmiddle : Bare (" " ++ operator ++ " ").toList := by
    have hquote : NoQuote (" " ++ operator ++ " ") := by
      simp only [noQuote_append]
      exact ⟨⟨by decide, hoperator⟩, by decide⟩
    exact bare_of_noQuote (by simp) hquote
  have hvalue := Parallel.quote (u := u) (v := v) position
  simpa [Literal.ofValue, Value.display] using
    (Parallel.refl hcolumn).append_bare hmiddle hvalue

namespace FilterGroup

variable {g : FilterGroup}

theorem parallel_include (hcolumn : Closed g.column.toList) (c : Comparison) :
    Parallel u v [c.position] ((c.put u).text g.column).toList
      ((c.put v).text g.column).toList := by
  have hoperator : NoQuote c.operator.text := by cases c.operator <;> decide
  exact parallel_comparison hcolumn hoperator c.position

theorem parallel_exclude (hcolumn : Closed g.column.toList) (c : Comparison) :
    Parallel u v [c.position] ((c.put u).negatedText g.column).toList
      ((c.put v).negatedText g.column).toList := by
  have hoperator : NoQuote c.operator.negatedText := by
    cases c.operator <;> decide
  exact parallel_comparison hcolumn hoperator c.position

theorem parallel_includeText (hcolumn : Closed g.column.toList) :
    Parallel u v (g.includes.map (·.position)) (g.put u).includeText.toList
      (g.put v).includeText.toList := by
  have hseparator : Bare " OR ".toList := by decide
  have hall := Parallel.intercalate (u := u) (v := v) hseparator g.includes
    (fun c => ((c.put u).text g.column).toList)
    (fun c => ((c.put v).text g.column).toList) (fun c => [c.position])
    fun c _ => parallel_include hcolumn c
  rw [← List.map_eq_flatMap] at hall
  have hinner := (hall.cons_bare (t := "(".toList) (by decide)).concat_bare
    (t := ")".toList) (by decide)
  unfold includeText put
  cases hincludes : g.includes with
  | nil => simpa [hincludes] using hinner
  | cons c rest =>
      cases rest with
      | nil => exact parallel_include hcolumn c
      | cons d rest =>
          simpa [hincludes, Function.comp_def] using hinner

theorem parallel_excludeText (hcolumn : Closed g.column.toList) :
    Parallel u v (g.excludes.map (·.position)) (g.put u).excludeText.toList
      (g.put v).excludeText.toList := by
  have hseparator : Bare " AND ".toList := by decide
  have hall := Parallel.intercalate (u := u) (v := v) hseparator g.excludes
    (fun c => ((c.put u).negatedText g.column).toList)
    (fun c => ((c.put v).negatedText g.column).toList) (fun c => [c.position])
    fun c _ => parallel_exclude hcolumn c
  rw [← List.map_eq_flatMap] at hall
  simpa [excludeText, put, Function.comp_def] using hall

theorem parallel_clause (hcolumn : Closed g.column.toList) :
    Parallel u v g.positions (g.put u).clause.toList (g.put v).clause.toList := by
  have hincludes := parallel_includeText (u := u) (v := v) hcolumn
  have hexcludes := parallel_excludeText (u := u) (v := v) hcolumn
  have hempty : ∀ values : Nat → String,
      ((g.put values).includes.isEmpty = g.includes.isEmpty) ∧
        (g.put values).excludes.isEmpty = g.excludes.isEmpty := by
    intro values
    simp [put]
  unfold clause positions comparisons
  rw [(hempty u).1, (hempty u).2, (hempty v).1, (hempty v).2, List.map_append]
  by_cases hno : g.includes = []
  · by_cases hnone : g.excludes = []
    · have hclosed : Closed "()".toList := by decide
      simpa [hno, hnone] using Parallel.refl (u := u) (v := v) hclosed
    · simpa [hno, hnone] using hexcludes
  · by_cases hnone : g.excludes = []
    · simpa [hno, hnone] using hincludes
    · have hboth := hincludes.append_bare (t := " AND ".toList) (by decide)
        hexcludes
      have houter := (hboth.cons_bare (t := "(".toList) (by decide)).concat_bare
        (t := ")".toList) (by decide)
      simpa [hno, hnone, String.toList_intercalate,
        List.intercalate_cons_cons] using houter

end FilterGroup

theorem FilterPredicate.parallel_text {groups : List FilterGroup}
    (hcolumns : ∀ g ∈ groups, Closed g.column.toList)
    (rejected others : List Rejection) :
    Parallel u v (groups.flatMap (·.positions))
      (text ⟨groups.map (·.put u), rejected⟩).toList
      (text ⟨groups.map (·.put v), others⟩).toList := by
  have hseparator : Bare " ".toList := by decide
  have hall := Parallel.intercalate (u := u) (v := v) hseparator groups
    (fun g => ("AND " ++ (g.put u).clause).toList)
    (fun g => ("AND " ++ (g.put v).clause).toList) (·.positions) (by
      intro g hg
      have hclause := FilterGroup.parallel_clause (u := u) (v := v)
        (hcolumns g hg)
      simpa using hclause.cons_bare (t := "AND ".toList) (by decide))
  simpa [text, String.toList_intercalate, Function.comp_def] using hall

end RequestBreakdown
