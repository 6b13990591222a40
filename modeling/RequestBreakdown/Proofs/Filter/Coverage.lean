import RequestBreakdown.Proofs.Filter.Meaning
import RequestBreakdown.Proofs.Sql.LiteralText

/-!
# Coverage and narrowing

Filters cover others when they test at least what the others test, value by
value.  Of values dropped that means that they select no more rows.  Of values
kept it means the opposite, since any one of them is enough: a filter that
keeps one value more on a column lets in rows that the covered filters leave
out.  So coverage narrows just where no value is added to those kept.
-/

namespace RequestBreakdown

/-! ## Comparisons with texts -/

/-- A row of which comparisons hold by their columns, operators and the texts
of their values. -/
def Truth.ofTexts (holds : String → FilterOperator → String → Prop) : Truth where
  given := fun _ => True
  comparison := fun column operator literal =>
    holds column operator (Literal.said literal)

namespace Comparison

def Alike (c d : Comparison) : Prop :=
  c.value.display = d.value.display ∧ c.operator = d.operator

theorem alike_iff (c d : Comparison) :
    c.Alike d ↔ (c.value.display, Value.text c.operator.text) =
      (d.value.display, Value.text d.operator.text) := by
  have hoperator : c.operator.text = d.operator.text ↔
      c.operator = d.operator := by
    cases c.operator <;> cases d.operator <;> simp [FilterOperator.text]
  simp [Alike, hoperator]

theorem holds_ofTexts (column : String) (negated : Bool)
    (holds : String → FilterOperator → String → Prop) (c : Comparison) :
    c.Holds column negated (.ofTexts holds) ↔
      if negated then ¬ holds column c.operator c.value.display
      else holds column c.operator c.value.display := by
  simp [Holds, Truth.ofTexts, Literal.said_ofValue]

theorem Alike.holds_iff {c d : Comparison} (halike : c.Alike d) (column : String)
    (negated : Bool) (holds : String → FilterOperator → String → Prop) :
    c.Holds column negated (.ofTexts holds) ↔
      d.Holds column negated (.ofTexts holds) := by
  rw [holds_ofTexts, holds_ofTexts, halike.1, halike.2]

end Comparison

namespace FilterGroup

def Within (h g : FilterGroup) : Prop :=
  ∀ exclude, ∀ c ∈ h.side exclude, ∃ d ∈ g.side exclude, d.Alike c

theorem within_ofGroup (h g : FilterGroup) :
    (GroupSummary.ofGroup h).within (GroupSummary.ofGroup g) = true ↔
      h.Within g := by
  have hside : ∀ xs ys : List Comparison,
      (∀ pair ∈ xs.map fun c => (c.value.display, Value.text c.operator.text),
        pair ∈ ys.map fun c => (c.value.display, Value.text c.operator.text)) ↔
          ∀ c ∈ xs, ∃ d ∈ ys, d.Alike c := by
    intro xs ys
    rw [List.forall_mem_map]
    simp only [List.mem_map, Comparison.alike_iff]
  simp only [GroupSummary.within, GroupSummary.ofGroup, Bool.and_eq_true,
    List.all_eq_true, List.contains_iff_mem, hside]
  simp only [Within, Bool.forall_bool, side]

/-- Whether a comparison for a value kept can be what lets a row in: one that
is not dropped by the group itself. -/
def LetsIn (g : FilterGroup) (c : Comparison) : Prop :=
  c ∈ g.includes ∧ ∀ d ∈ g.excludes, ¬ d.Alike c

end FilterGroup

namespace FilterPredicate

open FilterGroup

theorem eq_of_column_eq {groups : List FilterGroup}
    (hnodup : (groups.map (·.column)).Nodup) {g h : FilterGroup}
    (hg : g ∈ groups) (hh : h ∈ groups) (hcolumn : g.column = h.column) :
    g = h :=
  List.inj_on_of_nodup_map hnodup hg hh hcolumn

theorem find?_ofGroup {groups : List FilterGroup}
    (hnodup : (groups.map (·.column)).Nodup) (column : String)
    (s : GroupSummary) :
    GroupSummary.find? (groups.map .ofGroup) column = some s ↔
      ∃ g ∈ groups, g.column = column ∧ .ofGroup g = s := by
  have hcolumn : ∀ g : FilterGroup,
      (GroupSummary.ofGroup g).column = column ↔ g.column = column := by
    simp [GroupSummary.ofGroup]
  unfold GroupSummary.find?
  constructor
  · intro hfind
    have hmem := List.mem_of_find?_eq_some hfind
    have heq := List.find?_some hfind
    obtain ⟨g, hg, rfl⟩ := List.mem_map.mp (List.mem_reverse.mp hmem)
    exact ⟨g, hg, (hcolumn g).mp (by simpa using heq), rfl⟩
  · rintro ⟨g, hg, hgcolumn, rfl⟩
    cases hfind : (groups.map GroupSummary.ofGroup).reverse.find?
        (·.column == Value.text column) with
    | none =>
        have hnot := List.find?_eq_none.mp hfind (.ofGroup g)
          (List.mem_reverse.mpr (List.mem_map_of_mem hg))
        exact absurd ((hcolumn g).mpr hgcolumn) (by simpa using hnot)
    | some s =>
        have hmem := List.mem_of_find?_eq_some hfind
        have heq := List.find?_some hfind
        obtain ⟨h, hh, rfl⟩ := List.mem_map.mp (List.mem_reverse.mp hmem)
        have hhcolumn := (hcolumn h).mp (by simpa using heq)
        rw [eq_of_column_eq hnodup hg hh (hgcolumn.trans hhcolumn.symm)]

theorem covers_iff {current cached : List FilterGroup}
    (hcurrent : (current.map (·.column)).Nodup)
    (hcached : (cached.map (·.column)).Nodup) :
    covers current cached = true ↔
      ∀ h ∈ cached, ∃ g ∈ current, g.column = h.column ∧ h.Within g := by
  have hfound : ∀ h ∈ cached,
      GroupSummary.find? (cached.map .ofGroup) h.column = some (.ofGroup h) :=
    fun h hh => (find?_ofGroup hcached _ _).mpr ⟨h, hh, rfl, rfl⟩
  simp only [covers, GroupSummary.covers, List.map_map, List.all_map,
    List.all_eq_true, Function.comp_apply]
  refine forall₂_congr fun h hh => ?_
  have hcolumn : (GroupSummary.ofGroup h).column = Value.text h.column := rfl
  rw [hcolumn, hfound h hh]
  cases hfind : GroupSummary.find? (current.map .ofGroup) h.column with
  | none =>
      constructor
      · intro hfalse
        exact absurd hfalse (by simp)
      · rintro ⟨g, hg, heq, -⟩
        rw [(find?_ofGroup hcurrent _ _).mpr ⟨g, hg, heq, rfl⟩] at hfind
        exact absurd hfind (by simp)
  | some s =>
      obtain ⟨g, hg, heq, rfl⟩ := (find?_ofGroup hcurrent _ _).mp hfind
      dsimp only
      rw [within_ofGroup]
      constructor
      · intro hwithin
        exact ⟨g, hg, heq, hwithin⟩
      · rintro ⟨g', hg', heq', hwithin⟩
        rwa [eq_of_column_eq hcurrent hg hg' (heq.trans heq'.symm)]

/-! ## Rows that are let in -/

/-- No row is selected: on some column values are kept, and each of them is
dropped as well. -/
def Contradictory (groups : List FilterGroup) : Prop :=
  ∃ g ∈ groups, g.includes ≠ [] ∧ ∀ c ∈ g.includes, ¬ g.LetsIn c

/-- Where the cached groups keep values, the current ones let in no others. -/
def KeepsNoMore (current cached : List FilterGroup) : Prop :=
  ∀ g ∈ current, ∀ h ∈ cached, g.column = h.column → h.includes ≠ [] →
    ∀ c, g.LetsIn c → ∃ d ∈ h.includes, d.Alike c

theorem letsIn_of_holds {g : FilterGroup} {c : Comparison}
    {holds : String → FilterOperator → String → Prop}
    (hg : g.Holds (.ofTexts holds)) (hc : c ∈ g.includes)
    (hholds : c.Holds g.column false (.ofTexts holds)) : g.LetsIn c := by
  refine ⟨hc, fun d hd halike => ?_⟩
  have hdropped := hg.2 d hd
  rw [halike.holds_iff, Comparison.holds_ofTexts] at hdropped
  rw [Comparison.holds_ofTexts] at hholds
  exact absurd hholds (by simpa using hdropped)

theorem holds_of_within {g h : FilterGroup}
    {holds : String → FilterOperator → String → Prop}
    (hcolumn : g.column = h.column) (hwithin : h.Within g)
    (hnoMore : h.includes ≠ [] →
      ∀ c, g.LetsIn c → ∃ d ∈ h.includes, d.Alike c)
    (hg : g.Holds (.ofTexts holds)) : h.Holds (.ofTexts holds) := by
  constructor
  · intro hsome
    obtain ⟨c, hc⟩ := List.exists_mem_of_ne_nil _ hsome
    obtain ⟨d, hd, -⟩ := hwithin false c hc
    obtain ⟨e, he, hholds⟩ := hg.1 (List.ne_nil_of_mem hd)
    obtain ⟨k, hk, halike⟩ := hnoMore hsome e (letsIn_of_holds hg he hholds)
    exact ⟨k, hk, (halike.holds_iff ..).mpr (hcolumn ▸ hholds)⟩
  · intro c hc
    obtain ⟨d, hd, halike⟩ := hwithin true c hc
    exact (halike.holds_iff ..).mp (hcolumn ▸ hg.2 d hd)

/-- The row that has one value on a column, and whatever is not dropped on all
others. -/
def rowWith (groups : List FilterGroup) (column : String) (c : Comparison)
    (tested : String) (operator : FilterOperator) (text : String) : Prop :=
  (tested = column → c.value.display = text ∧ c.operator = operator) ∧
    ∀ g ∈ groups, g.column = tested → ∀ d ∈ g.excludes,
      ¬ (d.value.display = text ∧ d.operator = operator)

theorem holds_rowWith {groups : List FilterGroup}
    (hnodup : (groups.map (·.column)).Nodup) (hpossible : ¬ Contradictory groups)
    {g : FilterGroup} (hg : g ∈ groups) {c : Comparison} (hc : g.LetsIn c) :
    ∀ h ∈ groups, h.Holds (.ofTexts (rowWith groups g.column c)) := by
  intro h hh
  have hlets : ∀ d, h.LetsIn d → (h = g → c.Alike d) →
      d.Holds h.column false (.ofTexts (rowWith groups g.column c)) := by
    intro d hd hsame
    rw [Comparison.holds_ofTexts]
    refine ⟨fun heq => hsame (eq_of_column_eq hnodup hh hg heq), ?_⟩
    intro k hk hcolumn e he
    rw [eq_of_column_eq hnodup hk hh hcolumn] at he
    exact hd.2 e he
  constructor
  · intro hsome
    by_cases heq : h = g
    · subst heq
      exact ⟨c, hc.1, hlets c hc fun _ => ⟨rfl, rfl⟩⟩
    · have hlet : ∃ d ∈ h.includes, h.LetsIn d := by
        by_contra hnone
        push Not at hnone
        exact hpossible ⟨h, hh, hsome, hnone⟩
      obtain ⟨d, hd, hlet⟩ := hlet
      exact ⟨d, hd, hlets d hlet fun hfalse => absurd hfalse heq⟩
  · intro d hd
    rw [Comparison.holds_ofTexts]
    intro hholds
    exact hholds.2 h hh rfl d hd ⟨rfl, rfl⟩

theorem narrows_iff_keepsNoMore {current cached : List FilterGroup}
    (hcurrent : (current.map (·.column)).Nodup)
    (hcovers : ∀ h ∈ cached, ∃ g ∈ current, g.column = h.column ∧ h.Within g) :
    (∀ holds, (∀ g ∈ current, g.Holds (.ofTexts holds)) →
        ∀ h ∈ cached, h.Holds (.ofTexts holds)) ↔
      Contradictory current ∨ KeepsNoMore current cached := by
  constructor
  · intro hnarrows
    by_contra hneither
    obtain ⟨hpossible, hmore⟩ := not_or.mp hneither
    unfold KeepsNoMore at hmore
    push Not at hmore
    obtain ⟨g, hg, h, hh, hcolumn, hsome, c, hc, hnone⟩ := hmore
    have hrow := holds_rowWith hcurrent hpossible hg hc
    obtain ⟨d, hd, hholds⟩ := (hnarrows _ hrow h hh).1 hsome
    rw [Comparison.holds_ofTexts] at hholds
    obtain ⟨htext, hoperator⟩ := hholds.1 hcolumn.symm
    exact hnone d hd ⟨htext.symm, hoperator.symm⟩
  · rintro (⟨g, hg, hsome, hnone⟩ | hnoMore) holds hholds h hh
    · obtain ⟨c, hc, hlet⟩ := (hholds g hg).1 hsome
      exact absurd (letsIn_of_holds (hholds g hg) hc hlet) (hnone c hc)
    · obtain ⟨g, hg, hcolumn, hwithin⟩ := hcovers h hh
      exact holds_of_within hcolumn hwithin (hnoMore g hg h hh hcolumn)
        (hholds g hg)

end FilterPredicate

/-- The condition is what the predicate of filters says, read from its text
behind a condition that always holds. -/
def Condition.IsPredicateOf (c : Condition) (allowed : List String)
    (filters : List Filter) : Prop :=
  c.IsReadFrom (Query.condition "" (FilterPredicate.compile allowed filters).text none)
    (Query.givenTexts "" none) allowed filters

namespace FilterPredicate

open ConditionToken

theorem exists_isPredicateOf (allowed : List String) (filters : List Filter) :
    ∃ c : Condition, c.IsPredicateOf allowed filters ∧
      ∀ truth, c.Holds truth ↔
        ∀ g ∈ (compile allowed filters).groups, g.Holds truth := by
  obtain ⟨c, hread, hholds⟩ := Query.exists_condition_read "" allowed filters none
  refine ⟨c, hread, fun truth => ?_⟩
  rw [hholds, holds_groups]
  simp [Query.PartsHold]

/-- Filters that cover others select none but rows that the others select, just
in case they keep no value more than these on a column, or select no row. -/
theorem covers_narrows_iff {allowed : List String} {current cached : List Filter}
    (hcovers : covers (compile allowed current).groups
      (compile allowed cached).groups = true) :
    ∃ c d : Condition,
      c.IsPredicateOf allowed current ∧ d.IsPredicateOf allowed cached ∧
      ((∀ holds, c.Holds (.ofTexts holds) → d.Holds (.ofTexts holds)) ↔
        Contradictory (compile allowed current).groups ∨
          KeepsNoMore (compile allowed current).groups
            (compile allowed cached).groups) := by
  have hcurrent := nodup_compile allowed current
  have hcached := nodup_compile allowed cached
  obtain ⟨c, hc, hcholds⟩ := exists_isPredicateOf allowed current
  obtain ⟨d, hd, hdholds⟩ := exists_isPredicateOf allowed cached
  refine ⟨c, d, hc, hd, ?_⟩
  rw [← narrows_iff_keepsNoMore hcurrent ((covers_iff hcurrent hcached).mp hcovers)]
  exact forall_congr' fun holds => by rw [hcholds, hdholds]

theorem covers_narrows_iff_methods :
    let cached : List Filter := [{ column := "method", value := "GET" }]
    let current : List Filter := cached ++
      [{ column := "host", value := "a.com", exclude := .flag true }]
    covers (compile Breakdown.allowedColumns current).groups
        (compile Breakdown.allowedColumns cached).groups = true ∧
      ∃ c d : Condition,
        c.IsPredicateOf Breakdown.allowedColumns current ∧
        d.IsPredicateOf Breakdown.allowedColumns cached ∧
        ∀ holds, c.Holds (.ofTexts holds) → d.Holds (.ofTexts holds) := by
  intro cached current
  have hcovers : covers (compile Breakdown.allowedColumns current).groups
      (compile Breakdown.allowedColumns cached).groups = true := by
    decide +kernel
  obtain ⟨c, d, hc, hd, hiff⟩ := covers_narrows_iff hcovers
  have hgroups : (compile Breakdown.allowedColumns current).groups =
      [⟨"method", [⟨"GET", .equals⟩], []⟩, ⟨"host", [], [⟨"a.com", .equals⟩]⟩] := by
    decide +kernel
  have hkept : (compile Breakdown.allowedColumns cached).groups =
      [⟨"method", [⟨"GET", .equals⟩], []⟩] := by
    decide +kernel
  refine ⟨hcovers, c, d, hc, hd, hiff.mpr (.inr ?_)⟩
  rw [hgroups, hkept]
  intro g hg h hh hcolumn _ c hc
  obtain rfl := List.mem_singleton.mp hh
  rcases List.mem_pair.mp hg with rfl | rfl
  · exact ⟨c, hc.1, rfl, rfl⟩
  · exact absurd hcolumn (by decide)

/-- With one method more that is kept, a row is let in that was left out. -/
theorem covers_widens_methods :
    let cached : List Filter := [{ column := "method", value := "GET" }]
    let current : List Filter := cached ++
      [{ column := "method", value := "POST" }]
    let c : Condition := .and .always
      (.or (.comparison "method" .equals false "'GET'")
        (.comparison "method" .equals false "'POST'"))
    let d : Condition := .and .always (.comparison "method" .equals false "'GET'")
    covers (compile Breakdown.allowedColumns current).groups
        (compile Breakdown.allowedColumns cached).groups = true ∧
      c.IsPredicateOf Breakdown.allowedColumns current ∧
      d.IsPredicateOf Breakdown.allowedColumns cached ∧
      ∃ holds, c.Holds (.ofTexts holds) ∧ ¬ d.Holds (.ofTexts holds) := by
  intro cached current c d
  have hread : ∀ (filters : List Filter) (e : Condition),
      let tokens := Query.conditionTokens ""
        (compile Breakdown.allowedColumns filters).groups none
      spell tokens = Query.condition ""
        (compile Breakdown.allowedColumns filters).text none →
      Condition.read? tokens = some e →
        e.IsPredicateOf Breakdown.allowedColumns filters :=
    fun filters e hspell hread =>
      ⟨_, hspell, Query.comesFrom_conditionTokens _ _ _ _, hread⟩
  have hget : Literal.said "'GET'" = "GET" := Literal.said_quote "GET"
  have hpost : Literal.said "'POST'" = "POST" := Literal.said_quote "POST"
  refine ⟨by decide +kernel, hread _ _ (by decide +kernel) (by decide +kernel),
    hread _ _ (by decide +kernel) (by decide +kernel),
    fun _ _ text => text = "POST", ?_, ?_⟩
  · exact ⟨trivial, .inr hpost⟩
  · rintro ⟨-, hholds⟩
    exact absurd (hget.symm.trans hholds) (by decide)

end FilterPredicate

end RequestBreakdown
