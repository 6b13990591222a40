import RequestBreakdown.Proofs.Filter.Groups
import RequestBreakdown.Proofs.Load.Preparation
import RequestBreakdown.Proofs.Sql.Condition
import RequestBreakdown.Proofs.Sql.Statement

/-!
# What filters mean

The condition of filters is read as what the filters say: of the values kept on
a column one holds, and none of the values dropped.  The clauses of the columns
stand side by side without parentheses around them, so each clause has to be
read as one or several factors, in each of the shapes that a clause has.
-/

namespace RequestBreakdown

open ConditionToken ConditionReader

namespace Comparison

def tokens (column : String) (negated : Bool) (c : Comparison) :
    List ConditionToken :=
  [.column column, .operator c.operator negated,
    .literal (Literal.ofValue c.value)]

def Holds (column : String) (negated : Bool) (truth : Truth) (c : Comparison) :
    Prop :=
  if negated then
    ¬ truth.comparison column c.operator (Literal.ofValue c.value)
  else truth.comparison column c.operator (Literal.ofValue c.value)

theorem spell_tokens (column : String) (c : Comparison) :
    spell (c.tokens column false) = c.text column := by
  simp [spell, tokens, gap, Comparison.text, String.append_assoc]

theorem spell_tokens_negated (column : String) (c : Comparison) :
    spell (c.tokens column true) = c.negatedText column := by
  simp [spell, tokens, gap, Comparison.negatedText, String.append_assoc]

theorem solid_tokens (column : String) (negated : Bool) (c : Comparison) :
    Solid (c.tokens column negated) :=
  ⟨by simp [tokens], by simp [tokens], by simp [tokens]⟩

theorem readsAs_tokens (column : String) (negated : Bool) (c : Comparison) :
    ReadsAs (c.tokens column negated) (c.Holds column negated ·) :=
  readsAs_operand (c := .comparison column c.operator negated
    (Literal.ofValue c.value)) fun _ _ => rfl

end Comparison

namespace FilterGroup

def Holds (truth : Truth) (g : FilterGroup) : Prop :=
  (g.includes ≠ [] → ∃ c ∈ g.includes, c.Holds g.column false truth) ∧
    ∀ c ∈ g.excludes, c.Holds g.column true truth

def includeTokens (g : FilterGroup) : List ConditionToken :=
  match g.includes with
  | [c] => c.tokens g.column false
  | cs =>
    .opening :: ([ConditionToken.or].intercalate
      (cs.map (Comparison.tokens g.column false)) ++ [.closing])

def excludeTokens (g : FilterGroup) : List ConditionToken :=
  [ConditionToken.and].intercalate
    (g.excludes.map (Comparison.tokens g.column true))

def clauseTokens (g : FilterGroup) : List ConditionToken :=
  if g.excludes = [] then g.includeTokens
  else if g.includes = [] then g.excludeTokens
  else .opening :: ((g.includeTokens ++ .and :: g.excludeTokens) ++ [.closing])

end FilterGroup

/-- Tokens that spell a text and are read as a factor with a meaning. -/
structure Spells (tokens : List ConditionToken) (text : String)
    (meaning : Truth → Prop) : Prop where
  spelling : spell tokens = text
  solid : Solid tokens
  reads : ReadsAs tokens meaning

/-- A part of a condition: its tokens, its text and what it says. -/
structure ConditionPart where
  tokens : List ConditionToken
  text : String
  meaning : Truth → Prop

namespace FilterGroup

variable {g : FilterGroup}

theorem spells_includes (hsome : g.includes ≠ []) :
    Spells g.includeTokens g.includeText
      (fun truth => ∃ c ∈ g.includes, c.Holds g.column false truth) := by
  have hsolid : ∀ c ∈ g.includes, Solid (c.tokens g.column false) :=
    fun c _ => c.solid_tokens g.column false
  have hreads : ∀ c ∈ g.includes,
      ReadsAs (c.tokens g.column false) (c.Holds g.column false ·) :=
    fun c _ => c.readsAs_tokens g.column false
  have hopening : ConditionToken.or ≠ .opening := by simp
  have hclosing : ConditionToken.or ≠ .closing := by simp
  have hspell := spell_intercalate hopening hclosing hsolid
  unfold includeTokens includeText
  cases hincludes : g.includes with
  | nil => exact absurd hincludes hsome
  | cons c rest =>
      rw [hincludes] at hsolid hreads hspell
      cases rest with
      | nil =>
          have hmeaning := c.readsAs_tokens g.column false
          exact ⟨c.spell_tokens g.column, c.solid_tokens g.column false,
            by simpa using hmeaning⟩
      | cons d rest =>
          refine ⟨?_, solid_enclosed _, readsAs_disjunction (by simp) hreads⟩
          rw [spell_enclosed, hspell]
          simp [Comparison.spell_tokens, ConditionToken.text]

theorem spells_excludes (hsome : g.excludes ≠ []) :
    Spells g.excludeTokens g.excludeText
      (fun truth => ∀ c ∈ g.excludes, c.Holds g.column true truth) := by
  have hsolid : ∀ c ∈ g.excludes, Solid (c.tokens g.column true) :=
    fun c _ => c.solid_tokens g.column true
  refine ⟨?_, solid_intercalate (by simp) (by simp) hsome hsolid,
    readsAs_conjunction hsome fun c _ => c.readsAs_tokens g.column true⟩
  unfold excludeTokens excludeText
  rw [spell_intercalate (by simp) (by simp) hsolid]
  simp [Comparison.spell_tokens_negated, ConditionToken.text]

theorem spells_clause (hsome : g.comparisons ≠ []) :
    Spells g.clauseTokens g.clause (fun truth => g.Holds truth) := by
  unfold clauseTokens clause Holds
  by_cases hexcludes : g.excludes = []
  · have hincludes : g.includes ≠ [] := by
      intro hnone
      exact hsome (by simp [comparisons, hnone, hexcludes])
    have hspells := spells_includes hincludes
    simpa [hexcludes, hincludes] using hspells
  · have hback := spells_excludes hexcludes
    by_cases hincludes : g.includes = []
    · simpa [hexcludes, hincludes] using hback
    · have hfront := spells_includes hincludes
      have hjoined := hfront.reads.and hback.reads
      have hseparator : Solid [ConditionToken.and] :=
        solid_singleton (by simp) (by simp)
      have hspell : spell (g.includeTokens ++ .and :: g.excludeTokens) =
          g.includeText ++ " AND " ++ g.excludeText := by
        have htail := spell_append hseparator hback.solid
        rw [List.singleton_append] at htail
        have hall := spell_append hfront.solid (hseparator.append hback.solid)
        rw [List.singleton_append, htail] at hall
        rw [hall, hfront.spelling, hback.spelling]
        apply String.toList_inj.mp
        simp [spell, ConditionToken.text]
      rw [if_neg hexcludes, if_neg hincludes]
      refine ⟨?_, solid_enclosed _, ?_⟩
      · rw [spell_enclosed, hspell]
        apply String.toList_inj.mp
        simp [hexcludes, hincludes]
      · simpa [hincludes] using hjoined.enclosed

end FilterGroup

/-! ## Whole conditions -/

namespace Query

private theorem intercalate_cons_eq_flatMap (separator first : List Char)
    (rest : List (List Char)) :
    separator.intercalate (first :: rest) =
      first ++ rest.flatMap (separator ++ ·) := by
  induction rest generalizing first with
  | nil => simp
  | cons next more ih =>
      rw [List.intercalate_cons_cons, ih, List.flatMap_cons]
      simp only [List.append_assoc]

theorem toList_text_cons (g : FilterGroup) (rest : List FilterGroup)
    (rejected : List Rejection) :
    (FilterPredicate.text ⟨g :: rest, rejected⟩).toList =
      "AND ".toList ++ g.clause.toList ++
        (rest.map (·.clause.toList)).flatMap (" AND ".toList ++ ·) := by
  induction rest generalizing g with
  | nil => simp [FilterPredicate.text]
  | cons h more ih =>
      have hmore := ih h
      simp only [FilterPredicate.text, List.map_cons,
        String.toList_intercalate] at hmore ⊢
      rw [List.intercalate_cons_cons, hmore]
      simp

theorem condition_eq_intercalate (timeText : String) (groups : List FilterGroup)
    (rejected : List Rejection) (extra : Option String) :
    condition timeText (FilterPredicate.text ⟨groups, rejected⟩) extra =
      " AND ".intercalate (conditionFront timeText ::
        (groups.map (·.clause) ++ (extra.filter (· != "")).toList)) := by
  apply String.toList_inj.mp
  rw [condition_eq, String.toList_intercalate, List.map_cons,
    intercalate_cons_eq_flatMap]
  cases groups with
  | nil =>
      cases hextra : extra.filter (· != "") with
      | none => simp [conditionBack, hextra, FilterPredicate.text]
      | some text => simp [conditionBack, hextra, FilterPredicate.text]
  | cons g rest =>
      have htext := toList_text_cons g rest rejected
      have hsome : FilterPredicate.text ⟨g :: rest, rejected⟩ ≠ "" := by
        intro hempty
        rw [hempty] at htext
        simp at htext
      rw [if_neg hsome, String.toList_append, String.toList_append,
        String.toList_append, htext]
      cases hextra : extra.filter (· != "") with
      | none => simp [conditionBack, hextra, Function.comp_def]
      | some text => simp [conditionBack, hextra, Function.comp_def]

def conditionParts (timeText : String) (groups : List FilterGroup)
    (extra : Option String) : List ConditionPart :=
  { tokens := [if timeText = "" then .always else .given timeText]
    text := conditionFront timeText
    meaning := fun truth => timeText ≠ "" → truth.given timeText } ::
    (groups.map (fun g =>
        { tokens := g.clauseTokens, text := g.clause
          meaning := fun truth => g.Holds truth }) ++
      (extra.filter (· != "")).toList.map fun text =>
        { tokens := [.given text], text
          meaning := fun truth => truth.given text })

theorem spells_conditionParts (timeText : String) {groups : List FilterGroup}
    (hgroups : ∀ g ∈ groups, g.comparisons ≠ []) (extra : Option String) :
    ∀ part ∈ conditionParts timeText groups extra,
      Spells part.tokens part.text part.meaning := by
  have hgiven : ∀ text, Spells [.given text] text (·.given text) := fun text =>
    ⟨rfl, solid_singleton (by simp) (by simp),
      readsAs_operand (c := .given text) fun _ _ => rfl⟩
  intro part hpart
  simp only [conditionParts, List.mem_cons, List.mem_append,
    List.mem_map] at hpart
  rcases hpart with rfl | ⟨g, hg, rfl⟩ | ⟨text, htext, rfl⟩
  · by_cases hempty : timeText = ""
    · have halways : ReadsAs [.always] (Condition.always.Holds ·) :=
        readsAs_operand fun _ _ => rfl
      refine ⟨by simp [hempty, conditionFront, spell, ConditionToken.text],
        solid_singleton (by simp [hempty]) (by simp [hempty]), ?_⟩
      simpa [hempty, Condition.Holds] using halways
    · simpa [hempty, conditionFront] using hgiven timeText
  · exact FilterGroup.spells_clause (hgroups g hg)
  · exact hgiven text

def conditionTokens (timeText : String) (groups : List FilterGroup)
    (extra : Option String) : List ConditionToken :=
  [ConditionToken.and].intercalate
    ((conditionParts timeText groups extra).map (·.tokens))

theorem spells_condition (timeText : String) {groups : List FilterGroup}
    (hgroups : ∀ g ∈ groups, g.comparisons ≠ []) (rejected : List Rejection)
    (extra : Option String) :
    Spells (conditionTokens timeText groups extra)
      (condition timeText (FilterPredicate.text ⟨groups, rejected⟩) extra)
      (fun truth => ∀ part ∈ conditionParts timeText groups extra,
        part.meaning truth) := by
  have hparts := spells_conditionParts timeText hgroups extra
  have hsome : conditionParts timeText groups extra ≠ [] := by
    simp [conditionParts]
  have hsolid : ∀ part ∈ conditionParts timeText groups extra,
      Solid part.tokens := fun part hpart => (hparts part hpart).solid
  refine ⟨?_, solid_intercalate (by simp) (by simp) hsome hsolid,
    readsAs_conjunction hsome fun part hpart => (hparts part hpart).reads⟩
  have htexts : (conditionParts timeText groups extra).map
      (fun part => spell part.tokens) =
        (conditionParts timeText groups extra).map (·.text) :=
    List.map_congr_left fun part hpart => (hparts part hpart).spelling
  rw [conditionTokens, spell_intercalate (by simp) (by simp) hsolid, htexts,
    condition_eq_intercalate]
  simp [conditionParts, ConditionToken.text, Function.comp_def]

end Query

/-! ## The filters behind the groups -/

namespace FilterPredicate

theorem mem_onColumn {allowed : List String} {filters : List Filter}
    {column : String} {exclude : Bool} {c : Comparison} :
    c ∈ onColumn column exclude (contributions allowed filters) ↔
      ∃ f ∈ filters, f.excludes = exclude ∧
        check allowed f = .ok (column, c) := by
  unfold onColumn contributions
  simp only [List.mem_map, List.mem_filter, List.mem_filterMap,
    decide_eq_true_eq]
  constructor
  · rintro ⟨a, ⟨⟨f, hf, ha⟩, hcolumn, hexclude⟩, rfl⟩
    unfold contribution? at ha
    cases hcheck : check allowed f with
    | error rejection => simp [hcheck] at ha
    | ok accepted =>
        simp only [hcheck, Option.some.injEq] at ha
        subst ha hcolumn
        exact ⟨f, hf, hexclude, hcheck⟩
  · rintro ⟨f, hf, hexclude, hcheck⟩
    refine ⟨⟨column, f.excludes, c⟩, ⟨⟨f, hf, ?_⟩, rfl, hexclude⟩, rfl⟩
    simp [contribution?, hcheck]

/-- Whether the filters that are accepted hold of a row: on each column with
values kept one of them does, and no value dropped does. -/
def FiltersHold (allowed : List String) (filters : List Filter)
    (truth : Truth) : Prop :=
  ∀ column,
    ((∃ f ∈ filters, f.excludes = false ∧
        ∃ c, check allowed f = .ok (column, c)) →
      ∃ f ∈ filters, f.excludes = false ∧
        ∃ c, check allowed f = .ok (column, c) ∧
          truth.comparison column c.operator (Literal.ofValue c.value)) ∧
    ∀ f ∈ filters, f.excludes = true →
      ∀ c, check allowed f = .ok (column, c) →
        ¬ truth.comparison column c.operator (Literal.ofValue c.value)

theorem holds_groups (allowed : List String) (filters : List Filter)
    (truth : Truth) :
    (∀ g ∈ (compile allowed filters).groups, g.Holds truth) ↔
      FiltersHold allowed filters truth := by
  have hgathered := gathered_gather (contributions allowed filters)
  rw [groups_compile]
  constructor
  · intro hgroups column
    constructor
    · rintro ⟨f, hf, hkeeps, c, hcheck⟩
      obtain ⟨g, hg, rfl, hc⟩ := hgathered.exists_group
        (mem_onColumn.mpr ⟨f, hf, hkeeps, hcheck⟩)
      obtain ⟨d, hd, hholds⟩ := (hgroups g hg).1 (List.ne_nil_of_mem hc)
      have hside : d ∈ g.side false := hd
      rw [hgathered.sides g hg] at hside
      obtain ⟨h, hh, hkeeps', hcheck'⟩ := mem_onColumn.mp hside
      exact ⟨h, hh, hkeeps', d, hcheck', hholds⟩
    · intro f hf hdrops c hcheck
      obtain ⟨g, hg, rfl, hc⟩ := hgathered.exists_group
        (mem_onColumn.mpr ⟨f, hf, hdrops, hcheck⟩)
      exact (hgroups g hg).2 c hc
  · intro hfilters g hg
    have hside := hgathered.sides g hg
    constructor
    · intro hsome
      obtain ⟨c, hc⟩ := List.exists_mem_of_ne_nil _ hsome
      have hmem : c ∈ g.side false := hc
      rw [hside, mem_onColumn] at hmem
      obtain ⟨f, hf, hkeeps, hcheck⟩ := hmem
      obtain ⟨h, hh, hkeeps', d, hcheck', hholds⟩ :=
        (hfilters g.column).1 ⟨f, hf, hkeeps, c, hcheck⟩
      have hd : d ∈ g.side false := by
        rw [hside, mem_onColumn]
        exact ⟨h, hh, hkeeps', hcheck'⟩
      exact ⟨d, hd, hholds⟩
    · intro c hc
      have hmem : c ∈ g.side true := hc
      rw [hside, mem_onColumn] at hmem
      obtain ⟨f, hf, hdrops, hcheck⟩ := hmem
      exact (hfilters g.column).2 f hf hdrops c hcheck

end FilterPredicate

/-! ## The operands of a condition -/

/-- A token that names nothing but what the filters test, or a condition that
is given. -/
def ConditionToken.ComesFrom (givens : List String) (allowed : List String)
    (filters : List Filter) : ConditionToken → Prop
  | .given text => text ∈ givens
  | .column name =>
    ∃ f ∈ filters, ∃ c, FilterPredicate.check allowed f = .ok (name, c)
  | .literal text =>
    ∃ f ∈ filters, ∃ column c, FilterPredicate.check allowed f =
      .ok (column, c) ∧ text = Literal.ofValue c.value
  | _ => True

section ComesFrom

variable {givens allowed : List String} {filters : List Filter}

private theorem comesFrom_intercalate {separator : ConditionToken}
    {lists : List (List ConditionToken)}
    (hseparator : separator.ComesFrom givens allowed filters)
    (hlists : ∀ tokens ∈ lists, ∀ token ∈ tokens,
      token.ComesFrom givens allowed filters) :
    ∀ token ∈ [separator].intercalate lists,
      token.ComesFrom givens allowed filters := by
  induction lists with
  | nil => simp
  | cons tokens rest ih =>
      have hfirst := hlists tokens List.mem_cons_self
      cases rest with
      | nil => simpa using hfirst
      | cons next more =>
          have hrest := ih fun others hothers =>
            hlists others (List.mem_cons_of_mem _ hothers)
          rw [List.intercalate_cons_cons]
          intro token htoken
          simp only [List.mem_append, List.mem_singleton] at htoken
          rcases htoken with (htoken | rfl) | htoken
          · exact hfirst token htoken
          · exact hseparator
          · exact hrest token htoken

private theorem comesFrom_enclosed {tokens : List ConditionToken}
    (htokens : ∀ token ∈ tokens, token.ComesFrom givens allowed filters) :
    ∀ token ∈ ConditionToken.opening :: (tokens ++ [.closing]),
      token.ComesFrom givens allowed filters := by
  intro token htoken
  simp only [List.mem_cons, List.mem_append, List.not_mem_nil,
    or_false] at htoken
  rcases htoken with rfl | htoken | rfl
  · trivial
  · exact htokens token htoken
  · trivial

theorem Comparison.comesFrom_tokens {column : String} {negated : Bool}
    {c : Comparison} (hfilter : ∃ f ∈ filters,
      FilterPredicate.check allowed f = .ok (column, c)) :
    ∀ token ∈ c.tokens column negated,
      token.ComesFrom givens allowed filters := by
  obtain ⟨f, hf, hcheck⟩ := hfilter
  intro token htoken
  simp only [tokens, List.mem_cons, List.not_mem_nil, or_false] at htoken
  rcases htoken with rfl | rfl | rfl
  · exact ⟨f, hf, c, hcheck⟩
  · trivial
  · exact ⟨f, hf, column, c, hcheck, rfl⟩

theorem FilterGroup.comesFrom_clauseTokens {g : FilterGroup}
    (hg : ∀ c ∈ g.comparisons, ∃ f ∈ filters,
      FilterPredicate.check allowed f = .ok (g.column, c)) :
    ∀ token ∈ g.clauseTokens, token.ComesFrom givens allowed filters := by
  have hside : ∀ negated (cs : List Comparison),
      (∀ c ∈ cs, c ∈ g.comparisons) →
        ∀ tokens ∈ cs.map (Comparison.tokens g.column negated),
          ∀ token ∈ tokens, token.ComesFrom givens allowed filters := by
    intro negated cs hcs tokens htokens
    obtain ⟨c, hc, rfl⟩ := List.mem_map.mp htokens
    exact Comparison.comesFrom_tokens (hg c (hcs c hc))
  have hincludes := hside false g.includes fun c hc =>
    List.mem_append_left _ hc
  have hexcludes := hside true g.excludes fun c hc =>
    List.mem_append_right _ hc
  have hfront : ∀ token ∈ g.includeTokens,
      token.ComesFrom givens allowed filters := by
    unfold includeTokens
    split
    · rename_i c hc
      exact hincludes _ (by simp [hc])
    · exact comesFrom_enclosed (comesFrom_intercalate trivial hincludes)
  have hback : ∀ token ∈ g.excludeTokens,
      token.ComesFrom givens allowed filters :=
    comesFrom_intercalate trivial hexcludes
  unfold clauseTokens
  split
  · exact hfront
  · split
    · exact hback
    · apply comesFrom_enclosed
      intro token htoken
      simp only [List.mem_append, List.mem_cons] at htoken
      rcases htoken with htoken | rfl | htoken
      · exact hfront token htoken
      · trivial
      · exact hback token htoken

end ComesFrom

def Query.givenTexts (timeText : String) (extra : Option String) : List String :=
  timeText :: (extra.filter (· != "")).toList

theorem Query.comesFrom_conditionTokens (timeText : String)
    (extra : Option String) (allowed : List String) (filters : List Filter) :
    ∀ token ∈ conditionTokens timeText
        (FilterPredicate.compile allowed filters).groups extra,
      token.ComesFrom (givenTexts timeText extra) allowed filters := by
  have hgathered := FilterPredicate.gathered_gather
    (FilterPredicate.contributions allowed filters)
  unfold conditionTokens
  have hseparator : ConditionToken.and.ComesFrom (givenTexts timeText extra)
      allowed filters := trivial
  apply comesFrom_intercalate hseparator
  intro tokens htokens
  obtain ⟨part, hpart, rfl⟩ := List.mem_map.mp htokens
  simp only [conditionParts, List.mem_cons, List.mem_append,
    List.mem_map] at hpart
  rcases hpart with rfl | ⟨g, hg, rfl⟩ | ⟨text, htext, rfl⟩
  · intro token htoken
    rw [List.mem_singleton.mp htoken]
    split
    · trivial
    · exact List.mem_cons_self
  · rw [FilterPredicate.groups_compile] at hg
    apply FilterGroup.comesFrom_clauseTokens
    intro c hc
    have hside : ∃ exclude, c ∈ g.side exclude := by
      rcases List.mem_append.mp hc with hc | hc
      · exact ⟨false, hc⟩
      · exact ⟨true, hc⟩
    obtain ⟨exclude, hside⟩ := hside
    rw [hgathered.sides g hg, FilterPredicate.mem_onColumn] at hside
    obtain ⟨f, hf, -, hcheck⟩ := hside
    exact ⟨f, hf, hcheck⟩
  · intro token htoken
    rw [List.mem_singleton.mp htoken]
    exact List.mem_cons_of_mem _ htext

/-- The text is spelled by operands of the filters and by what is given, and is
read as the condition. -/
def Condition.IsReadFrom (c : Condition) (text : String)
    (givens allowed : List String) (filters : List Filter) : Prop :=
  ∃ tokens, spell tokens = text ∧
    (∀ token ∈ tokens, token.ComesFrom givens allowed filters) ∧
    Condition.read? tokens = some c

/-- Whether what a condition was made of holds: the time filter, the filters
and the extra predicate, as far as there are any. -/
def Query.PartsHold (timeText : String) (allowed : List String)
    (filters : List Filter) (extra : Option String) (truth : Truth) : Prop :=
  (timeText ≠ "" → truth.given timeText) ∧
    FilterPredicate.FiltersHold allowed filters truth ∧
    ∀ text, extra = some text → text ≠ "" → truth.given text

/-- A condition is read as what it was made of. -/
theorem Query.exists_condition_read (timeText : String)
    (allowed : List String) (filters : List Filter) (extra : Option String) :
    ∃ c : Condition, c.IsReadFrom
        (condition timeText (FilterPredicate.compile allowed filters).text extra)
        (givenTexts timeText extra) allowed filters ∧
      ∀ truth, c.Holds truth ↔
        PartsHold timeText allowed filters extra truth := by
  have hgathered := FilterPredicate.gathered_gather
    (FilterPredicate.contributions allowed filters)
  have hgroups : ∀ g ∈ (FilterPredicate.compile allowed filters).groups,
      g.comparisons ≠ [] := by
    intro g hg
    rw [FilterPredicate.groups_compile] at hg
    exact hgathered.comparisons_ne_nil hg
  obtain ⟨hspelling, -, hreads⟩ := spells_condition timeText hgroups
    (FilterPredicate.compile allowed filters).rejected extra
  obtain ⟨c, hread, hmeaning⟩ := Condition.exists_read hreads
  refine ⟨c, ⟨_, hspelling, comesFrom_conditionTokens timeText extra allowed
    filters, hread⟩, ?_⟩
  intro truth
  have hextra : (∀ text ∈ (extra.filter (· != "")).toList, truth.given text) ↔
      ∀ text, extra = some text → text ≠ "" → truth.given text := by
    simp [Option.filter_eq_some_iff]
  rw [hmeaning, PartsHold, ← FilterPredicate.holds_groups, ← hextra]
  simp only [conditionParts, List.forall_mem_cons, List.forall_mem_append,
    List.forall_mem_map]

end RequestBreakdown
