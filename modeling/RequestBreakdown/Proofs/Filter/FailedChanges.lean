import RequestBreakdown.Proofs.Filter.OrderedMap

/-!
# Changes that fail

A filter is added in two steps: the one that stands for its column and the text of its
value is taken out, and then the value is brought to the form that is tested.  The second
step may fail, and nothing is put back.  Nothing needs to be: whether it fails depends on
the column and the text of the value only, and no filter was ever made from a text with
which it does.
-/

namespace RequestBreakdown

/-- The tested form of a value is made from its text. -/
theorem ValueTransform.apply_congr (transform : ValueTransform) {value other : Value}
    (htext : value.display = other.display) :
    transform.apply value = transform.apply other := by
  cases transform with
  | networkNumber => simp only [apply, readNetworkNumber, htext]
  | familyPattern => simp only [apply, familyPatternOf, htext]

namespace Filter

/-- A filter cannot be made just in case its column is tested through another one, for
a form of the value that cannot be had. -/
theorem ofColumn_eq_error {breakdowns : List Breakdown} {column value exclude : Value}
    {fault : Fault} :
    ofColumn breakdowns column value exclude = .error fault ↔
      ∃ b filterColumn transform, Breakdown.find? column breakdowns = some b ∧
        b.filterColumn.present? = some filterColumn ∧
        b.valueTransform = some transform ∧ transform.apply value = .error fault := by
  unfold ofColumn
  dsimp only
  cases hfound : Breakdown.find? column breakdowns with
  | none => cases (column.text?.bind LogColumn.ofExpression?).bind (·.transform) <;> simp
  | some b =>
      cases hfilter : b.filterColumn.present? with
      | none =>
          cases (column.text?.bind LogColumn.ofExpression?).bind (·.transform) <;>
            simp [hfilter]
      | some filterColumn =>
          cases htransform : b.valueTransform with
          | none => simp [hfilter, htransform, pure, bind, Except.pure, Except.bind]
          | some transform =>
              cases happly : transform.apply value <;>
                simp [hfilter, htransform, happly, pure, bind, Except.pure, Except.bind]

theorem ofColumn_error_congr {breakdowns : List Breakdown}
    {column value other exclude : Value} {fault : Fault}
    (htext : value.display = other.display)
    (hfault : ofColumn breakdowns column value exclude = .error fault)
    (otherExclude : Value) :
    ofColumn breakdowns column other otherExclude = .error fault := by
  obtain ⟨b, filterColumn, transform, hfound, hfilter, htransform, happly⟩ :=
    ofColumn_eq_error.mp hfault
  rw [transform.apply_congr htext] at happly
  exact ofColumn_eq_error.mpr
    ⟨b, filterColumn, transform, hfound, hfilter, htransform, happly⟩

end Filter

namespace FilterSelection

variable {breakdowns : List Breakdown} {s t : FilterSelection} {m : FilterMap}
  {c : SelectionChange} {column : String} {value exclude : Value} {fault : Fault}

/-- The selection after a change was asked for that may have failed.  Only a filter that
is added is made after something was taken out. -/
def attempt (s : FilterSelection) : SelectionChange → FilterSelection
  | .add column value exclude => (s.add (.text column) value exclude).1
  | c => (s.change c).toOption.getD s

/-- No filter stands for a column and value of which none can be made. -/
theorem Holds.removeValue_of_fault (hholds : s.Holds breakdowns m)
    (hfault : Filter.ofColumn breakdowns (.text column) value exclude = .error fault) :
    s.removeValue (.text column) value = s := by
  have hfilters : s.filters.filter (·.key ≠ ⟨.text column, value.display⟩) =
      s.filters := by
    rw [List.filter_eq_self]
    intro f hf
    rw [decide_eq_true_iff]
    intro hkey
    obtain ⟨hcolumn, htext⟩ := FilterKey.mk.inj hkey
    have hmade := (hholds.made f hf).made
    rw [hcolumn, Filter.ofColumn_error_congr htext.symm hfault] at hmade
    exact absurd hmade (by simp)
  have hrest := hholds.filters_removeValue column value
  rw [hfilters] at hrest
  calc s.removeValue (.text column) value
      = { s with filters := (s.removeValue (.text column) value).filters } := rfl
    _ = s := by rw [hrest]

/-- Adding a filter takes out the old one just when the new one can be made. -/
theorem Holds.add_eq (hholds : s.Holds breakdowns m) :
    s.add (.text column) value exclude =
      match Filter.ofColumn breakdowns (.text column) value exclude with
      | .error fault => (s, .error fault)
      | .ok f => ((s.removeValue (.text column) value).push f, .ok f) := by
  unfold add makeFilter
  rw [hholds.testedBy]
  cases hmade : Filter.ofColumn breakdowns (.text column) value exclude with
  | error fault => simp only [hholds.removeValue_of_fault hmade]
  | ok f => rfl

/-! ## Changes that may fail -/

theorem attempt_of_ok (hchange : s.change c = .ok t) : s.attempt c = t := by
  cases c with
  | add column value exclude =>
      obtain ⟨f, hmade, rfl⟩ := add_cases hchange
      simp only [attempt, add, makeFilter, hmade]
  | _ => simp [attempt, hchange, Except.toOption]

theorem Holds.attempt_of_error (hholds : s.Holds breakdowns m)
    (hchange : s.change c = .error fault) : s.attempt c = s := by
  cases c with
  | add column value exclude =>
      simp only [FilterSelection.change, hholds.add_eq] at hchange
      simp only [attempt, hholds.add_eq]
      cases hmade : Filter.ofColumn breakdowns (.text column) value exclude with
      | error fault => rfl
      | ok f => simp [hmade, Except.map] at hchange
  | _ => simp [attempt, hchange, Except.toOption]

theorem Holds.attempt (hholds : s.Holds breakdowns m) (c : SelectionChange) :
    ∃ next, (s.attempt c).Holds breakdowns next := by
  cases hchange : s.change c with
  | error fault => exact ⟨m, by rwa [hholds.attempt_of_error hchange]⟩
  | ok t =>
      obtain ⟨next, -, hnext⟩ := hholds.change hchange
      exact ⟨next, by rwa [attempt_of_ok hchange]⟩

/-- The selection after some changes to an empty one, of which any may have failed. -/
def afterAttempts (breakdowns : List Breakdown) (changes : List SelectionChange) :
    FilterSelection :=
  changes.foldl attempt { breakdowns }

theorem exists_holds_afterAttempts (breakdowns : List Breakdown)
    (changes : List SelectionChange) :
    ∃ m, (afterAttempts breakdowns changes).Holds breakdowns m := by
  have hfrom : ∀ s : FilterSelection, (∃ m, s.Holds breakdowns m) →
      ∃ m, (changes.foldl FilterSelection.attempt s).Holds breakdowns m := by
    induction changes with
    | nil => exact fun s hholds => hholds
    | cons c rest ih =>
        rintro s ⟨m, hholds⟩
        exact ih _ (hholds.attempt c)
  exact hfrom _ ⟨.empty, holds_empty⟩

/-- Whatever was asked for before, a filter that cannot be made leaves the selection as
it was; one that can be made comes in last, in place of the one with its column and the
text of its value. -/
theorem add_all_or_nothing (breakdowns : List Breakdown)
    (changes : List SelectionChange) (column : String) (value exclude : Value) :
    let s := afterAttempts breakdowns changes
    s.add (.text column) value exclude =
      match Filter.ofColumn breakdowns (.text column) value exclude with
      | .error fault => (s, .error fault)
      | .ok f =>
        ({ s with filters :=
            s.filters.filter (·.key ≠ ⟨.text column, value.display⟩) ++ [f] }, .ok f) := by
  intro s
  obtain ⟨m, hholds⟩ := exists_holds_afterAttempts breakdowns changes
  have hrest := hholds.filters_removeValue column value
  rw [hholds.add_eq]
  cases Filter.ofColumn breakdowns (.text column) value exclude with
  | error fault => rfl
  | ok f => simp only [push, hrest]; rfl

end FilterSelection

end RequestBreakdown
