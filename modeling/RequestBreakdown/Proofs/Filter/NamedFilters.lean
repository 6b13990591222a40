import RequestBreakdown.Proofs.Breakdown.Allowed
import RequestBreakdown.Proofs.Filter.OrderedMap
import RequestBreakdown.Proofs.Load.Preparation
import RequestBreakdown.Settings

/-!
# Filters by name

Filters are set by the names of breakdowns and fields.  What a name means depends on the
number of rows, and only the ranges of the numbers offered may be tested: the filter on a
breakdown by ranges is left out where the number is none of those, unless it is large
enough for all ranges.  No other filter by name is left out.
-/

namespace RequestBreakdown

namespace FilterPredicate

variable {allowed : List String} {f : Filter}

theorem check_eq_ok_iff :
    (∃ c, check allowed f = .ok c) ↔
      (∃ name ∈ allowed, f.sqlColumn = .text name) ∧
      ∃ operator, f.filterOperator.text?.bind FilterOperator.ofText? = some operator := by
  unfold check
  constructor
  · rintro ⟨c, hcheck⟩
    cases hcolumn : f.sqlColumn.text?.filter allowed.contains with
    | none => simp [hcolumn] at hcheck
    | some name =>
        obtain ⟨htext, hallowed⟩ := Option.filter_eq_some_iff.mp hcolumn
        cases hoperator : f.filterOperator.text?.bind FilterOperator.ofText? with
        | none => simp [hcolumn, hoperator] at hcheck
        | some operator =>
            refine ⟨⟨name, by simpa using hallowed, ?_⟩, operator, rfl⟩
            cases hvalue : f.sqlColumn <;> simp_all [Value.text?]
  · rintro ⟨⟨name, hname, hcolumn⟩, operator, hoperator⟩
    have hfilter : f.sqlColumn.text?.filter allowed.contains = some name := by
      rw [hcolumn]
      simp [Value.text?, Option.filter, hname]
    rw [hfilter, hoperator]
    exact ⟨_, rfl⟩

/-- Nothing is left out just where each filter is for a column and with an operator that
are allowed. -/
theorem rejected_eq_nil_iff (allowed : List String) (filters : List Filter) :
    (compile allowed filters).rejected = [] ↔
      ∀ f ∈ filters, ∃ c, check allowed f = .ok c := by
  have hfrom : ∀ p : FilterPredicate,
      (filters.foldl (addFilter allowed) p).rejected = [] ↔
        p.rejected = [] ∧ ∀ f ∈ filters, ∃ c, check allowed f = .ok c := by
    induction filters with
    | nil => simp
    | cons f rest ih =>
        intro p
        rw [List.foldl_cons, ih, List.forall_mem_cons, addFilter]
        cases hcheck : check allowed f with
        | error rejection => simp
        | ok accepted => simp
  rw [compile, hfrom]
  simp

end FilterPredicate

namespace Filter

/-- A filter is left in just where the column that it was set on is allowed. -/
theorem IsMade.check_iff {f : Filter} (hmade : f.IsMade Breakdown.all) {column : String}
    (hcolumn : f.column = .text column) :
    (∃ c, FilterPredicate.check Breakdown.allowedColumns f = .ok c) ↔
      column ∈ Breakdown.allowedColumns := by
  have hcases := ofColumn_cases hmade.made
  rw [FilterPredicate.check_eq_ok_iff]
  rcases hcases with ⟨b, filterColumn, filterValue, hfound, hfilter, hf⟩ | ⟨filterValue, hf⟩
  · have hb : b ∈ Breakdown.all := List.mem_of_find?_eq_some hfound
    obtain ⟨hallowed, hpresent, hoperator, value, hdimension⟩ :=
      Breakdown.filterColumn_facts hb hfilter
    obtain ⟨shown, hshown, rfl⟩ := Breakdown.expression_mem_allowed hb hdimension
    have hshows := List.find?_some hfound
    rw [Breakdown.showsColumn, hdimension, hcolumn] at hshows
    obtain rfl : shown = column := Value.same_text.mp hshows
    refine iff_of_true ⟨?_, hf ▸ hoperator⟩ hshown
    rw [hf]
    simpa [sqlColumn, Value.orElse, Value.present?, hpresent] using hallowed
  · rw [hf, hcolumn]
    constructor
    · rintro ⟨⟨name, hname, hsame⟩, -⟩
      exact Value.text.inj hsame ▸ hname
    · intro hallowed
      exact ⟨⟨column, hallowed, rfl⟩, .equals, rfl⟩

end Filter

namespace FilterSelection

/-- A name and a value, as they are given. -/
def givenPair (pair : String × String) : Value := .list [.text pair.1, .text pair.2]

/-- The filters of a selection stand on the columns that the names mean. -/
structure HoldsNamed (s : FilterSelection) (topN : Int) (pairs : List (String × String)) :
    Prop where
  holds : ∃ m, s.Holds Breakdown.all m
  named : ∀ f ∈ s.filters, ∃ pair ∈ pairs,
    Breakdown.columnOfName (.text pair.1) (.int topN) = .ok f.column
  kept : ∀ pair ∈ pairs, ∃ f ∈ s.filters,
    Breakdown.columnOfName (.text pair.1) (.int topN) = .ok f.column

variable {s t : FilterSelection} {topN : Int} {pairs : List (String × String)}
  {pair : String × String} {exclude : Bool}

theorem addNamed_eq {column : String}
    (hcolumn : Breakdown.columnOfName (.text pair.1) (.int topN) = .ok (.text column)) :
    addNamed (.int topN) exclude s (givenPair pair) =
      s.change (.add column (.text pair.2) (.flag exclude)) := by
  simp [addNamed, givenPair, Value.asPair, Value.items, hcolumn, FilterSelection.change,
    bind, Except.bind, pure, Except.pure]

/-- A filter by name takes the place of an earlier one on the same column, if any, so the
names still have their columns among those of the filters. -/
theorem HoldsNamed.addNamed (hs : s.HoldsNamed topN pairs)
    (hname : Breakdown.InCatalog pair.1)
    (hadd : addNamed (.int topN) exclude s (givenPair pair) = .ok t) :
    t.HoldsNamed topN (pairs ++ [pair]) := by
  obtain ⟨m, hholds⟩ := hs.holds
  obtain ⟨column, hcolumn, -⟩ := Breakdown.columnOfName_catalog hname topN
  rw [addNamed_eq hcolumn] at hadd
  obtain ⟨next, -, hnext⟩ := hholds.change hadd
  obtain ⟨f, hf, rfl⟩ := add_cases hadd
  have hfcolumn := (Filter.ofColumn_eq_ok hf).1
  have hfilters : ((s.removeValue (.text column) (.text pair.2)).push f).filters =
      s.filters.filter (·.key ≠ ⟨.text column, pair.2⟩) ++ [f] := by
    rw [push, hholds.filters_removeValue]
    rfl
  refine ⟨⟨next, hnext⟩, ?_, ?_⟩
  · rw [hfilters]
    intro g hg
    rcases List.mem_append.mp hg with hkept | hnew
    · obtain ⟨other, hother, hnamed⟩ := hs.named g (List.mem_of_mem_filter hkept)
      exact ⟨other, List.mem_append_left _ hother, hnamed⟩
    · rw [List.mem_singleton.mp hnew, hfcolumn]
      exact ⟨pair, by simp, hcolumn⟩
  · rw [hfilters]
    intro other hother
    rcases List.mem_append.mp hother with hearlier | hnew
    · obtain ⟨g, hg, hnamed⟩ := hs.kept other hearlier
      by_cases hkey : g.key = ⟨.text column, pair.2⟩
      · -- The filter that goes stands on the column of the one that comes.
        have hgcolumn : g.column = .text column := congrArg FilterKey.column hkey
        exact ⟨f, by simp, by rw [hnamed, hgcolumn, hfcolumn]⟩
      · exact ⟨g, List.mem_append_left _ (by simp [hg, hkey]), hnamed⟩
    · rw [List.mem_singleton.mp hnew]
      exact ⟨f, by simp, by rw [hcolumn, hfcolumn]⟩

theorem HoldsNamed.run {more : List (String × String)}
    (hs : s.HoldsNamed topN pairs) (hnames : ∀ pair ∈ more, Breakdown.InCatalog pair.1)
    (hrun : (more.map givenPair).foldlM (FilterSelection.addNamed (.int topN) exclude) s =
      .ok t) :
    t.HoldsNamed topN (pairs ++ more) := by
  induction more generalizing s pairs with
  | nil =>
      cases hrun
      simpa using hs
  | cons pair rest ih =>
      rw [List.map_cons, List.foldlM_cons] at hrun
      obtain ⟨next, hnext, hrest⟩ := bind_eq_ok.mp hrun
      obtain ⟨hname, hlater⟩ := List.forall_mem_cons.mp hnames
      have hend := ih (hs.addNamed hname hnext) hlater hrest
      rwa [List.append_assoc] at hend

theorem holdsNamed_ofNames {includes excludes : List (String × String)}
    (hnames : ∀ pair ∈ includes ++ excludes, Breakdown.InCatalog pair.1)
    (hs : ofNames (includes.map givenPair) (excludes.map givenPair) (.int topN) = .ok s) :
    s.HoldsNamed topN (includes ++ excludes) := by
  obtain ⟨hincludes, hexcludes⟩ := List.forall_mem_append.mp hnames
  obtain ⟨first, hfirst, hthen⟩ := bind_eq_ok.mp hs
  have hempty : HoldsNamed {} topN [] := ⟨⟨_, holds_empty⟩, by simp, by simp⟩
  exact (hempty.run hincludes hfirst).run hexcludes hthen

/-- Filters set by names of the catalog are all left in just where each name of a
breakdown by ranges has its number offered, or large enough for all ranges. -/
theorem rejected_ofNames_iff {includes excludes : List (String × String)}
    (hnames : ∀ pair ∈ includes ++ excludes, Breakdown.InCatalog pair.1)
    (hs : ofNames (includes.map givenPair) (excludes.map givenPair) (.int topN) = .ok s) :
    (FilterPredicate.compile Breakdown.allowedColumns s.filters).rejected = [] ↔
      ∀ pair ∈ includes ++ excludes, Breakdown.IsOffered pair.1 topN := by
  have hnamed := holdsNamed_ofNames hnames hs
  obtain ⟨m, hholds⟩ := hnamed.holds
  -- A filter is left in just where the names that mean its column are offered.
  have hcheck : ∀ f ∈ s.filters, ∀ pair ∈ includes ++ excludes,
      Breakdown.columnOfName (.text pair.1) (.int topN) = .ok f.column →
      ((∃ c, FilterPredicate.check Breakdown.allowedColumns f = .ok c) ↔
        Breakdown.IsOffered pair.1 topN) := by
    intro f hf pair hpair hcolumn
    obtain ⟨column, hmeans, hallowed⟩ :=
      Breakdown.columnOfName_catalog (hnames pair hpair) topN
    have hsame := Except.ok.inj (hcolumn.symm.trans hmeans)
    rw [(hholds.made f hf).check_iff hsame, hallowed]
  rw [FilterPredicate.rejected_eq_nil_iff]
  constructor
  · intro hall pair hpair
    obtain ⟨f, hf, hcolumn⟩ := hnamed.kept pair hpair
    exact (hcheck f hf pair hpair hcolumn).mp (hall f hf)
  · intro hall f hf
    obtain ⟨pair, hpair, hcolumn⟩ := hnamed.named f hf
    exact (hcheck f hf pair hpair hcolumn).mpr (hall pair hpair)

/-- Of ten rows, sizes and networks can be filtered by name. -/
theorem rejected_ofNames_iff_ten :
    ∃ s, ofNames [givenPair ("content-length", "0 (empty)"), givenPair ("asn", "15169 Net")]
        [givenPair ("method", "GET")] (.int 10) = .ok s ∧
      s.filters.length = 3 ∧
      (FilterPredicate.compile Breakdown.allowedColumns s.filters).rejected = [] := by
  have hnames : ∀ pair ∈ [("content-length", "0 (empty)"), ("asn", "15169 Net")] ++
      [("method", "GET")], Breakdown.InCatalog pair.1 := by
    decide +kernel
  have hlength : ((ofNames [givenPair ("content-length", "0 (empty)"),
      givenPair ("asn", "15169 Net")] [givenPair ("method", "GET")] (.int 10)).toOption.map
        (·.filters.length)) = some 3 := by
    decide +kernel
  cases hs : ofNames [givenPair ("content-length", "0 (empty)"),
      givenPair ("asn", "15169 Net")] [givenPair ("method", "GET")] (.int 10) with
  | error fault => simp [hs, Except.toOption] at hlength
  | ok s =>
      refine ⟨s, rfl, by simpa [hs, Except.toOption] using hlength, ?_⟩
      exact (rejected_ofNames_iff hnames hs).mpr fun _ _ _ _ _ _ _ => .inl (by decide)

/-- Seven rows can be set for a session, and then no filter on the sizes is left in. -/
theorem seven_sizes_rejected :
    ((SettingsInput.ofEnvironment [("LOGFACETS_TOP_N", "7")]).check.toOption.map
      (·.topN)) = some (.int 7) ∧
    Breakdown.InCatalog "content-length" ∧
    ((ofNames [givenPair ("content-length", "0 (empty)")] [] (.int 7)).toOption.map fun s =>
      FilterPredicate.compile Breakdown.allowedColumns s.filters) =
      some { rejected := [⟨.text ((RangeKind.bytes.partition 7).expression "content_length"),
        .columnNotAllowed⟩] } := by
  refine ⟨?_, ?_, ?_⟩ <;> decide +kernel

end FilterSelection

end RequestBreakdown
