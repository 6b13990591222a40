import RequestBreakdown.Filter.Predicate
import Mathlib.Data.List.Nodup

/-!
# The groups of a predicate

Each accepted filter contributes one comparison on one column.  Gathering the
contributions by column loses none of them and keeps their order: the group of
a column holds the kept values and the dropped values of that column, each in
the order of the filters, and there is one group for every column that some
accepted filter tests.
-/

namespace RequestBreakdown

/-- What an accepted filter adds to a predicate. -/
structure Contribution where
  column : String
  excludes : Bool
  comparison : Comparison
  deriving DecidableEq, Repr

namespace FilterGroup

/-- The comparisons for values dropped, or for values kept. -/
def side (g : FilterGroup) : Bool → List Comparison
  | true => g.excludes
  | false => g.includes

def comparisons (g : FilterGroup) : List Comparison := g.includes ++ g.excludes

@[simp] theorem column_insert (g : FilterGroup) (exclude : Bool)
    (c : Comparison) : (g.insert exclude c).column = g.column := by
  cases exclude <;> rfl

theorem side_insert (g : FilterGroup) (exclude other : Bool)
    (c : Comparison) :
    (g.insert exclude c).side other =
      g.side other ++ if exclude = other then [c] else [] := by
  cases exclude <;> cases other <;> simp [insert, side]

theorem comparisons_insert (g : FilterGroup) (exclude : Bool)
    (c : Comparison) :
    (g.insert exclude c).comparisons.Perm (c :: g.comparisons) := by
  cases exclude with
  | false => simp [insert, comparisons]
  | true =>
      have hmove := List.perm_append_singleton c (g.includes ++ g.excludes)
      simpa [insert, comparisons] using hmove

end FilterGroup

namespace FilterPredicate

def contribution? (allowed : List String) (f : Filter) : Option Contribution :=
  match check allowed f with
  | .ok (column, c) => some ⟨column, f.excludes, c⟩
  | .error _ => none

def contributions (allowed : List String) (filters : List Filter) :
    List Contribution :=
  filters.filterMap (contribution? allowed)

def gatherInto (groups : List FilterGroup) (cs : List Contribution) :
    List FilterGroup :=
  cs.foldl (fun groups a =>
    insertComparison groups a.column a.excludes a.comparison) groups

def gather (cs : List Contribution) : List FilterGroup := gatherInto [] cs

theorem groups_compile (allowed : List String) (filters : List Filter) :
    (compile allowed filters).groups = gather (contributions allowed filters) := by
  have hfrom : ∀ p : FilterPredicate,
      (filters.foldl (addFilter allowed) p).groups =
        gatherInto p.groups (contributions allowed filters) := by
    induction filters with
    | nil => exact fun _ => rfl
    | cons f rest ih =>
        intro p
        rw [List.foldl_cons, ih]
        unfold contributions addFilter contribution?
        cases hcheck : check allowed f with
        | error rejection => simp [hcheck]
        | ok accepted => simp [hcheck, gatherInto]
  exact hfrom {}

theorem column_of_check {allowed : List String} {f : Filter} {column : String}
    {c : Comparison} (hcheck : check allowed f = .ok (column, c)) :
    column ∈ allowed := by
  unfold check at hcheck
  cases hcolumn : f.sqlColumn.text?.filter allowed.contains with
  | none => simp [hcolumn] at hcheck
  | some found =>
      have hmem : found ∈ allowed := by
        simpa using (Option.filter_eq_some_iff.mp hcolumn).2
      cases hoperator : f.filterOperator.text?.bind FilterOperator.ofText? with
      | none => simp [hcolumn, hoperator] at hcheck
      | some operator =>
          simp only [hcolumn, hoperator, Except.ok.injEq, Prod.mk.injEq] at hcheck
          rw [← hcheck.1]
          exact hmem

theorem column_of_contribution {allowed : List String} {filters : List Filter}
    {a : Contribution} (ha : a ∈ contributions allowed filters) :
    a.column ∈ allowed := by
  obtain ⟨f, -, hf⟩ := List.mem_filterMap.mp ha
  unfold contribution? at hf
  cases hcheck : check allowed f with
  | error rejection => simp [hcheck] at hf
  | ok accepted =>
      simp only [hcheck, Option.some.injEq] at hf
      rw [← hf]
      exact column_of_check hcheck

/-! ## One comparison more -/

/-- A comparison joins the one group of its column, or starts it. -/
theorem insertComparison_cases (groups : List FilterGroup) (column : String)
    (exclude : Bool) (c : Comparison) :
    (∃ before g after, groups = before ++ g :: after ∧ g.column = column ∧
      (∀ other ∈ before, other.column ≠ column) ∧
      insertComparison groups column exclude c =
        before ++ g.insert exclude c :: after) ∨
    ((∀ g ∈ groups, g.column ≠ column) ∧
      insertComparison groups column exclude c =
        groups ++ [FilterGroup.insert { column } exclude c]) := by
  induction groups with
  | nil =>
      right
      exact ⟨by simp, rfl⟩
  | cons g rest ih =>
      by_cases hg : g.column = column
      · left
        refine ⟨[], g, rest, rfl, hg, by simp, ?_⟩
        simp [insertComparison, hg]
      · rcases ih with ⟨before, h, after, hrest, hh, hbefore, hinsert⟩ |
          ⟨hnone, hinsert⟩
        · left
          refine ⟨g :: before, h, after, by simp [hrest], hh, ?_, ?_⟩
          · simpa [hg] using hbefore
          · simp [insertComparison, hg, hinsert]
        · right
          refine ⟨by simpa [hg] using hnone, ?_⟩
          simp [insertComparison, hg, hinsert]

theorem comparisons_insertComparison (groups : List FilterGroup)
    (column : String) (exclude : Bool) (c : Comparison) :
    ((insertComparison groups column exclude c).flatMap
        FilterGroup.comparisons).Perm
      (c :: groups.flatMap FilterGroup.comparisons) := by
  rcases insertComparison_cases groups column exclude c with
    ⟨before, g, after, hgroups, -, -, hinsert⟩ | ⟨-, hinsert⟩
  · rw [hinsert, hgroups]
    simp only [List.flatMap_append, List.flatMap_cons]
    have hg := (g.comparisons_insert exclude c).append_right
      (after.flatMap FilterGroup.comparisons)
    exact (hg.append_left _).trans List.perm_middle
  · rw [hinsert]
    have hnew : [FilterGroup.insert { column } exclude c].flatMap
        FilterGroup.comparisons = [c] := by
      cases exclude <;> rfl
    rw [List.flatMap_append, hnew]
    exact List.perm_append_singleton c _

/-! ## All contributions -/

def onColumn (column : String) (exclude : Bool) (cs : List Contribution) :
    List Comparison :=
  (cs.filter fun a => a.column = column ∧ a.excludes = exclude).map
    (·.comparison)

@[simp] theorem onColumn_append (column : String) (exclude : Bool)
    (cs more : List Contribution) :
    onColumn column exclude (cs ++ more) =
      onColumn column exclude cs ++ onColumn column exclude more := by
  simp [onColumn]

theorem onColumn_singleton (column : String) (exclude : Bool)
    (a : Contribution) :
    onColumn column exclude [a] =
      if a.column = column ∧ a.excludes = exclude then [a.comparison]
      else [] := by
  by_cases ha : a.column = column ∧ a.excludes = exclude <;>
    simp [onColumn, ha]

/-- The groups hold the contributions, each in the group of its column. -/
structure Gathered (cs : List Contribution) (groups : List FilterGroup) :
    Prop where
  nodup : (groups.map (·.column)).Nodup
  sides : ∀ g ∈ groups, ∀ exclude,
    g.side exclude = onColumn g.column exclude cs
  columns : ∀ column,
    column ∈ groups.map (·.column) ↔ ∃ a ∈ cs, a.column = column

namespace Gathered

variable {cs : List Contribution} {groups : List FilterGroup}

theorem sides_of_ne (hgathered : Gathered cs groups) {a : Contribution}
    {g : FilterGroup} (hg : g ∈ groups) (hne : a.column ≠ g.column)
    (exclude : Bool) : g.side exclude = onColumn g.column exclude (cs ++ [a]) := by
  rw [onColumn_append, onColumn_singleton, if_neg fun h => hne h.1,
    List.append_nil]
  exact hgathered.sides g hg exclude

theorem join {a : Contribution} {g : FilterGroup}
    {before after : List FilterGroup}
    (hgathered : Gathered cs (before ++ g :: after)) (hg : g.column = a.column)
    (hbefore : ∀ other ∈ before, other.column ≠ a.column) :
    Gathered (cs ++ [a])
      (before ++ g.insert a.excludes a.comparison :: after) := by
  have hcolumns : (before ++ g.insert a.excludes a.comparison :: after).map
      (·.column) = (before ++ g :: after).map (·.column) := by
    simp
  have hafter : ∀ other ∈ after, other.column ≠ a.column := by
    intro other hother heq
    have hnodup := hgathered.nodup
    rw [List.map_append, List.map_cons] at hnodup
    have hfront := (List.nodup_cons.mp (List.nodup_append.mp hnodup).2.1).1
    rw [hg, ← heq] at hfront
    exact hfront (List.mem_map_of_mem hother)
  have hmem : g ∈ before ++ g :: after := by simp
  refine ⟨hcolumns ▸ hgathered.nodup, ?_, ?_⟩
  · intro h hh exclude
    rcases List.mem_append.mp hh with hh | hh
    · exact hgathered.sides_of_ne (by simp [hh])
        (fun heq => hbefore h hh heq.symm) exclude
    · rcases List.mem_cons.mp hh with rfl | hh
      · rw [FilterGroup.side_insert, hgathered.sides g hmem, onColumn_append,
          onColumn_singleton]
        simp [hg]
      · exact hgathered.sides_of_ne (by simp [hh])
          (fun heq => hafter h hh heq.symm) exclude
  · intro column
    rw [hcolumns, hgathered.columns]
    constructor
    · rintro ⟨b, hb, rfl⟩
      exact ⟨b, List.mem_append_left _ hb, rfl⟩
    · rintro ⟨b, hb, rfl⟩
      rcases List.mem_append.mp hb with hb | hb
      · exact ⟨b, hb, rfl⟩
      · rw [List.mem_singleton.mp hb, ← hg]
        exact (hgathered.columns _).mp (List.mem_map_of_mem hmem)

theorem open_group {a : Contribution} (hgathered : Gathered cs groups)
    (hnone : ∀ g ∈ groups, g.column ≠ a.column) :
    Gathered (cs ++ [a])
      (groups ++
        [FilterGroup.insert { column := a.column } a.excludes a.comparison]) := by
  have hnew : a.column ∉ groups.map (·.column) := by
    intro hmem
    obtain ⟨g, hg, heq⟩ := List.mem_map.mp hmem
    exact hnone g hg heq
  refine ⟨?_, ?_, ?_⟩
  · rw [List.map_append, List.map_singleton, FilterGroup.column_insert]
    simpa using hgathered.nodup.concat hnew
  · intro h hh exclude
    rcases List.mem_append.mp hh with hh | hh
    · exact hgathered.sides_of_ne hh (fun heq => hnone h hh heq.symm) exclude
    · have hold : onColumn a.column exclude cs = [] := by
        rw [onColumn, List.map_eq_nil_iff, List.filter_eq_nil_iff]
        intro b hb heq
        rw [hgathered.columns] at hnew
        exact hnew ⟨b, hb, by simpa using (of_decide_eq_true heq).1⟩
      rw [List.mem_singleton.mp hh, FilterGroup.side_insert,
        FilterGroup.column_insert, onColumn_append, hold, onColumn_singleton]
      cases exclude <;> simp [FilterGroup.side]
  · intro column
    rw [List.map_append, List.mem_append, hgathered.columns]
    constructor
    · rintro (⟨b, hb, rfl⟩ | hlast)
      · exact ⟨b, List.mem_append_left _ hb, rfl⟩
      · exact ⟨a, by simp, by simpa [eq_comm] using hlast⟩
    · rintro ⟨b, hb, rfl⟩
      rcases List.mem_append.mp hb with hb | hb
      · exact .inl ⟨b, hb, rfl⟩
      · right
        simp [List.mem_singleton.mp hb]

theorem insert (hgathered : Gathered cs groups) (a : Contribution) :
    Gathered (cs ++ [a])
      (insertComparison groups a.column a.excludes a.comparison) := by
  rcases insertComparison_cases groups a.column a.excludes a.comparison with
    ⟨before, g, after, rfl, hg, hbefore, hinsert⟩ | ⟨hnone, hinsert⟩
  · rw [hinsert]
    exact hgathered.join hg hbefore
  · rw [hinsert]
    exact hgathered.open_group hnone

theorem gatherInto (hgathered : Gathered cs groups) (more : List Contribution) :
    Gathered (cs ++ more) (gatherInto groups more) := by
  induction more generalizing cs groups with
  | nil => simpa [FilterPredicate.gatherInto] using hgathered
  | cons a rest ih =>
      have hrest := ih (hgathered.insert a)
      simpa [FilterPredicate.gatherInto] using hrest

end Gathered

/-- Gathering puts every contribution into the group of its column. -/
theorem gathered_gather (cs : List Contribution) : Gathered cs (gather cs) := by
  have hnothing : Gathered [] [] := ⟨List.nodup_nil, by simp, by simp⟩
  simpa [gather] using hnothing.gatherInto cs

theorem nodup_compile (allowed : List String) (filters : List Filter) :
    ((compile allowed filters).groups.map (·.column)).Nodup := by
  rw [groups_compile]
  exact (gathered_gather _).nodup

theorem Gathered.exists_group {cs : List Contribution}
    {groups : List FilterGroup} (hgathered : Gathered cs groups)
    {column : String} {exclude : Bool} {c : Comparison}
    (hc : c ∈ onColumn column exclude cs) :
    ∃ g ∈ groups, g.column = column ∧ c ∈ g.side exclude := by
  obtain ⟨a, ha, -⟩ := List.mem_map.mp hc
  obtain ⟨hmem, hside⟩ := List.mem_filter.mp ha
  have hcolumn := (hgathered.columns column).mpr
    ⟨a, hmem, (of_decide_eq_true hside).1⟩
  obtain ⟨g, hg, rfl⟩ := List.mem_map.mp hcolumn
  exact ⟨g, hg, rfl, by rwa [hgathered.sides g hg]⟩

theorem Gathered.comparisons_ne_nil {cs : List Contribution}
    {groups : List FilterGroup} (hgathered : Gathered cs groups)
    {g : FilterGroup} (hg : g ∈ groups) : g.comparisons ≠ [] := by
  obtain ⟨a, ha, hcolumn⟩ :=
    (hgathered.columns g.column).mp (List.mem_map_of_mem hg)
  have hmem : a.comparison ∈ g.side a.excludes := by
    rw [hgathered.sides g hg]
    exact List.mem_map_of_mem
      (List.mem_filter.mpr ⟨ha, decide_eq_true ⟨hcolumn, rfl⟩⟩)
  cases hexcludes : a.excludes with
  | false =>
      rw [hexcludes] at hmem
      exact List.ne_nil_of_mem (List.mem_append_left _ hmem)
  | true =>
      rw [hexcludes] at hmem
      exact List.ne_nil_of_mem (List.mem_append_right _ hmem)

theorem comparisons_gather (cs : List Contribution) :
    ((gather cs).flatMap FilterGroup.comparisons).Perm
      (cs.map (·.comparison)) := by
  have hfrom : ∀ groups : List FilterGroup,
      ((gatherInto groups cs).flatMap FilterGroup.comparisons).Perm
        (cs.map (·.comparison) ++ groups.flatMap FilterGroup.comparisons) := by
    induction cs with
    | nil => exact fun _ => .refl _
    | cons a rest ih =>
        intro groups
        have hinsert := comparisons_insertComparison groups a.column a.excludes
          a.comparison
        have hrest := (ih _).trans (hinsert.append_left _)
        exact hrest.trans List.perm_middle
  simpa [gather] using hfrom []

end FilterPredicate

end RequestBreakdown
