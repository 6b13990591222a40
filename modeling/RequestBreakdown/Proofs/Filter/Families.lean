import Mathlib.Data.List.TakeWhile
import RequestBreakdown.Proofs.Filter.Exclusion
import RequestBreakdown.Proofs.Sql.Like

/-!
# Filters on families

The family of a content type is what stands in front of its first slash, with a slash
and a star behind it, and a filter on a family tests content types for the pattern that
the family is.  A content type without a slash has a family, but fits no such pattern.
Of those with a slash all that are of the family fit it, and no others just where every
character in front of the slash stands for itself.
-/

namespace RequestBreakdown

/-! ## Rows of texts -/

/-- Whether the text of a row is what an operator says of a value. -/
def FilterOperator.Selects (text value : String) : FilterOperator → Prop
  | .equals => text = value
  | .like => Like.fits value.toList text.toList = true

/-- What holds of a row, given by the texts in its columns. -/
def Truth.ofRow (row : String → String) : Truth :=
  .ofTexts fun column operator value => operator.Selects (row column) value

/-- Whether the condition of a filter keeps a row or, where the filter excludes, drops
it. -/
def Condition.Picks (c : Condition) (exclude : Bool) (row : String → String) : Prop :=
  c.Holds (.ofRow row) ↔ exclude = false

namespace FilterPredicate

theorem filtersHold_singleton {allowed : List String} {f : Filter} {column : String}
    {c : Comparison} {truth : Truth} (hcheck : check allowed f = .ok (column, c)) :
    FiltersHold allowed [f] truth ↔
      (truth.comparison column c.operator (Literal.ofValue c.value) ↔
        f.excludes = false) := by
  have hunique : ∀ other d, check allowed f = .ok (other, d) → other = column ∧ d = c := by
    intro other d hother
    rw [hcheck] at hother
    cases hother
    exact ⟨rfl, rfl⟩
  constructor
  · intro hholds
    obtain ⟨hkept, hdropped⟩ := hholds column
    constructor
    · intro htrue
      by_contra hexclude
      exact hdropped f (by simp) (by simpa using hexclude) c hcheck htrue
    · intro hkeeps
      obtain ⟨g, hg, -, d, hd, htrue⟩ := hkept ⟨f, by simp, hkeeps, c, hcheck⟩
      obtain rfl := List.mem_singleton.mp hg
      obtain ⟨-, rfl⟩ := hunique column d hd
      exact htrue
  · intro hiff other
    constructor
    · rintro ⟨g, hg, hkeeps, d, hd⟩
      obtain rfl := List.mem_singleton.mp hg
      obtain ⟨rfl, rfl⟩ := hunique other d hd
      exact ⟨g, hg, hkeeps, d, hd, hiff.mpr hkeeps⟩
    · intro g hg hdrops d hd htrue
      obtain rfl := List.mem_singleton.mp hg
      obtain ⟨rfl, rfl⟩ := hunique other d hd
      rw [hiff.mp htrue] at hdrops
      cases hdrops

end FilterPredicate

/-! ## Families of content types -/

namespace Family

/-- The text in front of the first slash, or all of it where there is none. -/
def front (contentType : String) : List Char :=
  contentType.toList.takeWhile (· ≠ '/')

/-- The family that is shown for a content type. -/
def ofContentType (contentType : String) : String :=
  String.ofList (front contentType ++ ['/', '*'])

variable {s t : String}

theorem ofContentType_inj : ofContentType s = ofContentType t ↔ front s = front t := by
  unfold ofContentType
  rw [← String.toList_inj]
  simp

theorem slash_notMem_front (s : String) : '/' ∉ front s := by
  intro hslash
  simpa using List.mem_takeWhile_imp hslash

theorem front_eq_of_append {before later : List Char} (ht : t.toList = before ++ '/' :: later)
    (hbefore : '/' ∉ before) : front t = before := by
  have hall : ∀ c ∈ before, decide (c ≠ '/') = true := by
    intro c hc
    exact decide_eq_true fun hslash => hbefore (hslash ▸ hc)
  rw [front, ht, List.takeWhile_append_of_pos hall, List.takeWhile_cons_of_neg (by simp),
    List.append_nil]

theorem exists_front_append (hslash : '/' ∈ t.toList) :
    ∃ later, t.toList = front t ++ '/' :: later := by
  obtain ⟨before, later, ht, hbefore⟩ := List.eq_append_cons_of_mem hslash
  rw [front_eq_of_append ht hbefore]
  exact ⟨later, ht⟩

/-- The pattern of a family fits what has a slash behind a text that fits the pattern of
its front. -/
theorem fits_pattern_iff :
    FilterOperator.Selects t (familyPatternOf (.text (ofContentType s))) .like ↔
      ∃ before later, t.toList = before ++ '/' :: later ∧
        Like.fits ((front s).map Like.ofStar) before = true := by
  have hpattern : (familyPatternOf (.text (ofContentType s))).toList =
      (front s).map Like.ofStar ++ ['/', '%'] := by
    simp [familyPatternOf, Value.display, ofContentType, Like.ofStar]
  have hslash : '/' ≠ '%' := by decide
  rw [FilterOperator.Selects, hpattern, Like.fits_append]
  constructor
  · rintro ⟨before, last, ht, hbefore, hlast⟩
    obtain ⟨c, later, rfl, hc, -⟩ := (Like.fits_cons hslash).mp hlast
    obtain rfl : '/' = c := hc.resolve_left (by decide)
    exact ⟨before, later, ht, hbefore⟩
  · rintro ⟨before, later, ht, hbefore⟩
    have hany : Like.fits ['%'] later = true :=
      Like.fits_percent.mpr ⟨later, [], by simp, rfl⟩
    exact ⟨before, '/' :: later, ht, hbefore,
      (Like.fits_cons hslash).mpr ⟨'/', later, rfl, .inr rfl, hany⟩⟩

theorem slash_mem_of_pattern
    (hfits : FilterOperator.Selects t (familyPatternOf (.text (ofContentType s))) .like) :
    '/' ∈ t.toList := by
  obtain ⟨before, later, ht, -⟩ := fits_pattern_iff.mp hfits
  simp [ht]

theorem fits_pattern_of_family (hslash : '/' ∈ t.toList)
    (hfamily : ofContentType t = ofContentType s) :
    FilterOperator.Selects t (familyPatternOf (.text (ofContentType s))) .like := by
  obtain ⟨later, ht⟩ := exists_front_append hslash
  rw [ofContentType_inj.mp hfamily] at ht
  exact fits_pattern_iff.mpr ⟨front s, later, ht, Like.fits_map_ofStar _⟩

/-- The pattern of a family fits content types of that family only, just where each
character in front of the slash stands for itself. -/
theorem pattern_fits_family_iff :
    (∀ t, FilterOperator.Selects t (familyPatternOf (.text (ofContentType s))) .like →
        ofContentType t = ofContentType s) ↔
      ∀ c ∈ front s, c ≠ '%' ∧ c ≠ '_' ∧ c ≠ '*' := by
  constructor
  · intro honly c hc
    by_contra hwild
    rw [← Like.isPlain_ofStar] at hwild
    -- A character that is not the one replaced, and no slash.
    obtain ⟨d, hd, hslash⟩ : ∃ d, d ≠ c ∧ d ≠ '/' := by
      by_cases hx : c = 'x'
      · exact ⟨'y', by simp [hx], by decide⟩
      · exact ⟨'x', Ne.symm hx, by decide⟩
    obtain ⟨other, hother, hfrom, hfits⟩ := Like.exists_fits_map_ofStar hc hwild hd
    have hbefore : '/' ∉ other := by
      intro hmem
      rcases hfrom _ hmem with hfront | rfl
      · exact slash_notMem_front s hfront
      · exact hslash rfl
    have ht : (String.ofList (other ++ ['/'])).toList = other ++ '/' :: [] :=
      String.toList_ofList
    have hfamily := honly _ (fits_pattern_iff.mpr ⟨other, [], ht, hfits⟩)
    rw [ofContentType_inj, front_eq_of_append ht hbefore] at hfamily
    exact hother hfamily
  · intro hplain t hfits
    obtain ⟨before, later, ht, hbefore⟩ := fits_pattern_iff.mp hfits
    have hplain' : ∀ c ∈ front s, Like.IsPlain (Like.ofStar c) := fun c hc =>
      Like.isPlain_ofStar.mpr (hplain c hc)
    rw [Like.map_ofStar_of_plain hplain'] at hbefore
    have hsame : before = front s := by
      refine (Like.fits_of_plain fun c hc => ?_).mp hbefore
      exact ⟨(hplain c hc).1, (hplain c hc).2.1⟩
    rw [ofContentType_inj, front_eq_of_append ht (hsame ▸ slash_notMem_front s), hsame]

/-! ## The filter on a family -/

/-- The expression of the families. -/
def column : String := "split_part(content_type, '/', 1) || '/*'"

/-- The filter that stands for a family. -/
def filterFor (family : String) (exclude : Bool) : Filter where
  column := column
  value := family
  exclude := .flag exclude
  filterColumn := "content_type"
  filterValue := .text (familyPatternOf (.text family))
  filterOperator := "LIKE"

theorem ofColumn_family (family : String) (exclude : Bool) :
    Filter.ofColumn Breakdown.all (.text column) (.text family) (.flag exclude) =
      .ok (filterFor family exclude) := by
  have hall : (Breakdown.find? (.text column)).map
      (fun b => (b.filterColumn.present?, b.valueTransform, b.filterOperator)) =
        some (some (.text "content_type"), some .familyPattern, .text "LIKE") := by
    decide +kernel
  obtain ⟨b, hfound, hfacts⟩ := Option.map_eq_some_iff.mp hall
  simp only [Prod.mk.injEq] at hfacts
  obtain ⟨hfilter, htransform, hoperator⟩ := hfacts
  simp [Filter.ofColumn, hfound, hfilter, htransform, hoperator, ValueTransform.apply,
    filterFor, bind, Except.bind, pure, Except.pure]

theorem check_filterFor (family : String) (exclude : Bool) :
    FilterPredicate.check Breakdown.allowedColumns (filterFor family exclude) =
      .ok ("content_type", ⟨.text (familyPatternOf (.text family)), .like⟩) := by
  have hallowed : (Value.text "content_type").text?.filter
      Breakdown.allowedColumns.contains = some "content_type" := by
    decide +kernel
  have hcolumn : (filterFor family exclude).sqlColumn = .text "content_type" := rfl
  have hvalue : (filterFor family exclude).sqlValue =
      .text (familyPatternOf (.text family)) := rfl
  unfold FilterPredicate.check
  rw [hcolumn, hallowed, hvalue]
  rfl

theorem add_family (family : String) (exclude : Bool) (filters : List Filter) :
    (FilterSelection.add { filters } (.text column) (.text family) (.flag exclude)).2 =
      .ok (filterFor family exclude) := by
  simp only [FilterSelection.add, FilterSelection.makeFilter, FilterSelection.removeValue,
    ofColumn_family]

/-- A filter on a family picks what has a slash behind a text that fits the pattern of the
family.  So it picks no content type without a slash, though each has a family.  With a
slash it picks all of the family, and no others just where each character in front of
the slash stands for itself. -/
theorem picks_family_iff (s : String) (exclude : Bool) (filters : List Filter) :
    ∃ f c, (FilterSelection.add { filters } (.text column) (.text (ofContentType s))
        (.flag exclude)).2 = .ok f ∧
      Condition.IsPredicateOf c Breakdown.allowedColumns [f] ∧
      (∀ row, c.Picks exclude row ↔
        ∃ before later, (row "content_type").toList = before ++ '/' :: later ∧
          Like.fits ((front s).map Like.ofStar) before = true) ∧
      (∀ row, '/' ∉ (row "content_type").toList → ¬ c.Picks exclude row) ∧
      (∀ row, '/' ∈ (row "content_type").toList →
        ofContentType (row "content_type") = ofContentType s → c.Picks exclude row) ∧
      ((∀ row, c.Picks exclude row →
          ofContentType (row "content_type") = ofContentType s) ↔
        ∀ ch ∈ front s, ch ≠ '%' ∧ ch ≠ '_' ∧ ch ≠ '*') := by
  obtain ⟨c, hc, hholds⟩ := FilterPredicate.exists_isPredicateOf
    Breakdown.allowedColumns [filterFor (ofContentType s) exclude]
  have hpicks : ∀ row, c.Picks exclude row ↔ FilterOperator.Selects (row "content_type")
      (familyPatternOf (.text (ofContentType s))) .like := by
    intro row
    have hexcludes : (filterFor (ofContentType s) exclude).excludes = exclude := by
      cases exclude <;> rfl
    rw [Condition.Picks, hholds, FilterPredicate.holds_groups,
      FilterPredicate.filtersHold_singleton (check_filterFor _ _), hexcludes]
    simp only [Truth.ofRow, Truth.ofTexts, Literal.said_ofValue, Value.display]
    tauto
  refine ⟨_, c, add_family _ _ _, hc, ?_, ?_, ?_, ?_⟩
  · intro row
    rw [hpicks, fits_pattern_iff]
  · intro row hslash hpicked
    exact hslash (slash_mem_of_pattern ((hpicks row).mp hpicked))
  · intro row hslash hfamily
    exact (hpicks row).mpr (fits_pattern_of_family hslash hfamily)
  · rw [← pattern_fits_family_iff]
    constructor
    · intro honly t hfits
      exact honly (fun _ => t) ((hpicks _).mpr hfits)
    · intro honly row hpicked
      exact honly _ ((hpicks row).mp hpicked)

/-- The family of the empty content type leaves the empty content type out, and with an
underscore in front of the slash a family lets another one in. -/
theorem empty_type_outside_its_family :
    let c : Condition := .and .always (.comparison "content_type" .like false "'/%'")
    let d : Condition := .and .always (.comparison "content_type" .like false "'x_y/%'")
    (FilterSelection.add {} (.text column) (.text (ofContentType "")) (.flag false)).2 =
        .ok (filterFor "/*" false) ∧
      c.IsPredicateOf Breakdown.allowedColumns [filterFor "/*" false] ∧
      ¬ c.Holds (.ofRow fun _ => "") ∧
    (FilterSelection.add {} (.text column) (.text (ofContentType "x_y/z")) (.flag false)).2 =
        .ok (filterFor "x_y/*" false) ∧
      d.IsPredicateOf Breakdown.allowedColumns [filterFor "x_y/*" false] ∧
      d.Holds (.ofRow fun _ => "x-y/z") ∧
      ofContentType "x-y/z" ≠ ofContentType "x_y/z" := by
  intro c d
  have hempty : ofContentType "" = "/*" := by decide +kernel
  have hscore : ofContentType "x_y/z" = "x_y/*" := by decide +kernel
  have hread : c.IsPredicateOf Breakdown.allowedColumns [filterFor "/*" false] :=
    FilterPredicate.isPredicateOf_of_read (by decide +kernel) (by decide +kernel)
  have hother : d.IsPredicateOf Breakdown.allowedColumns [filterFor "x_y/*" false] :=
    FilterPredicate.isPredicateOf_of_read (by decide +kernel) (by decide +kernel)
  refine ⟨hempty ▸ add_family _ _ _, hread, ?_, hscore ▸ add_family _ _ _, hother, ?_, ?_⟩
  · rintro ⟨-, hlike⟩
    have hfits : Like.fits (Literal.said "'/%'").toList "".toList = true := hlike
    exact absurd hfits (by decide +kernel)
  · have hfits : Like.fits (Literal.said "'x_y/%'").toList "x-y/z".toList = true := by
      decide +kernel
    exact ⟨trivial, hfits⟩
  · decide +kernel

end Family

end RequestBreakdown
