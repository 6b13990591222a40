import RequestBreakdown.Proofs.Filter.Accounting
import RequestBreakdown.Proofs.Filter.Coverage

/-!
# Coverage as an order

Filters cover others when each of the others that is applied has one among them that asks
the same: on the same column and side, by the same operator and for a value of the same
text.  So coverage does not depend on how the filters are grouped.  It is reflexive and
transitive, it takes values of one text for the same, and more filters cover fewer.
-/

namespace RequestBreakdown

/-- Whether two filters ask the same, of whatever kind their values are. -/
structure Filter.AsksSame (f g : Filter) : Prop where
  column : f.sqlColumn = g.sqlColumn
  excludes : f.excludes = g.excludes
  operator : f.filterOperator = g.filterOperator
  value : f.sqlValue.display = g.sqlValue.display

namespace Filter.AsksSame

variable {f g h : Filter} {allowed : List String}

theorem refl (f : Filter) : f.AsksSame f := ⟨rfl, rfl, rfl, rfl⟩

theorem symm (hsame : f.AsksSame g) : g.AsksSame f :=
  ⟨hsame.column.symm, hsame.excludes.symm, hsame.operator.symm, hsame.value.symm⟩

theorem trans (hfirst : f.AsksSame g) (hthen : g.AsksSame h) : f.AsksSame h :=
  ⟨hfirst.column.trans hthen.column, hfirst.excludes.trans hthen.excludes,
    hfirst.operator.trans hthen.operator, hfirst.value.trans hthen.value⟩

theorem isApplied_eq (hsame : f.AsksSame g) : f.isApplied allowed = g.isApplied allowed := by
  rw [isApplied, isApplied, hsame.column, hsame.operator]

theorem alike (hsame : f.AsksSame g) : f.comparison.Alike g.comparison := by
  refine ⟨hsame.value, ?_⟩
  simp only [comparison, hsame.operator]

end Filter.AsksSame

namespace FilterPredicate

variable {allowed others : List String} {filters : List Filter}

/-- The comparisons of a group come from the filters applied to its column. -/
theorem mem_side_compile {g : FilterGroup} (hg : g ∈ (compile allowed filters).groups)
    {exclude : Bool} {c : Comparison} :
    c ∈ g.side exclude ↔ ∃ f ∈ filters, f.isApplied allowed = true ∧
      f.sqlColumn = .text g.column ∧ f.excludes = exclude ∧ f.comparison = c := by
  rw [groups_compile] at hg
  rw [(gathered_gather _).sides g hg, onColumn_contributions]
  simp only [List.mem_map, List.mem_filter, Filter.isFor, decide_eq_true_eq, and_assoc]

theorem exists_group_of_isApplied {f : Filter} (hf : f ∈ filters)
    (happlied : f.isApplied allowed = true) :
    ∃ g ∈ (compile allowed filters).groups, f.sqlColumn = .text g.column := by
  have hcolumn : f.testedColumn ∈ (compile allowed filters).groups.map (·.column) := by
    rw [columns_compile, List.mem_eraseDups]
    exact List.mem_map_of_mem (List.mem_filter.mpr ⟨hf, happlied⟩)
  obtain ⟨g, hg, heq⟩ := List.mem_map.mp hcolumn
  exact ⟨g, hg, heq ▸ (Filter.given_of_isApplied happlied).2.1⟩

theorem exists_isApplied_of_group {g : FilterGroup}
    (hg : g ∈ (compile allowed filters).groups) :
    ∃ f ∈ filters, f.isApplied allowed = true ∧ f.sqlColumn = .text g.column := by
  have hcolumn : g.column ∈ (compile allowed filters).groups.map (·.column) :=
    List.mem_map_of_mem hg
  rw [columns_compile, List.mem_eraseDups] at hcolumn
  obtain ⟨f, hf, heq⟩ := List.mem_map.mp hcolumn
  obtain ⟨hmem, happlied⟩ := List.mem_filter.mp hf
  exact ⟨f, hmem, happlied, heq ▸ (Filter.given_of_isApplied happlied).2.1⟩

/-- Coverage in terms of the filters, whatever groups they fall into. -/
theorem covers_compile_iff {current cached : List Filter} :
    covers (compile allowed current).groups (compile others cached).groups = true ↔
      ∀ f ∈ cached, f.isApplied others = true →
        ∃ g ∈ current, g.isApplied allowed = true ∧ g.AsksSame f := by
  rw [covers_iff (nodup_compile ..) (nodup_compile ..)]
  constructor
  · intro hgroups f hf happlied
    obtain ⟨h, hh, hcolumn⟩ := exists_group_of_isApplied hf happlied
    obtain ⟨g, hg, heq, hwithin⟩ := hgroups h hh
    have hmem : f.comparison ∈ h.side f.excludes :=
      (mem_side_compile hh).mpr ⟨f, hf, happlied, hcolumn, rfl, rfl⟩
    obtain ⟨d, hd, halike⟩ := hwithin _ _ hmem
    obtain ⟨k, hk, hkapplied, hkcolumn, hkside, rfl⟩ := (mem_side_compile hg).mp hd
    refine ⟨k, hk, hkapplied, ?_, hkside, ?_, halike.1⟩
    · rw [hkcolumn, hcolumn, heq]
    · rw [(Filter.given_of_isApplied hkapplied).2.2,
        (Filter.given_of_isApplied happlied).2.2, halike.2]
  · intro hfilters h hh
    obtain ⟨f, hf, happlied, hcolumn⟩ := exists_isApplied_of_group hh
    obtain ⟨k, hk, hkapplied, hsame⟩ := hfilters f hf happlied
    obtain ⟨g, hg, hgcolumn⟩ := exists_group_of_isApplied hk hkapplied
    have heq : g.column = h.column := by
      rw [hsame.column, hcolumn] at hgcolumn
      exact (Value.text.inj hgcolumn).symm
    refine ⟨g, hg, heq, ?_⟩
    rintro exclude c hc
    obtain ⟨f', hf', happlied', hcolumn', rfl, rfl⟩ := (mem_side_compile hh).mp hc
    obtain ⟨k', hk', hkapplied', hsame'⟩ := hfilters f' hf' happlied'
    refine ⟨k'.comparison, ?_, hsame'.alike⟩
    refine (mem_side_compile hg).mpr ⟨k', hk', hkapplied', ?_, hsame'.excludes, rfl⟩
    rw [hsame'.column, hcolumn', heq]

theorem covers_trans {allowed₁ allowed₂ allowed₃ : List String} {fs gs hs : List Filter}
    (hfirst : covers (compile allowed₁ fs).groups (compile allowed₂ gs).groups = true)
    (hthen : covers (compile allowed₂ gs).groups (compile allowed₃ hs).groups = true) :
    covers (compile allowed₁ fs).groups (compile allowed₃ hs).groups = true := by
  rw [covers_compile_iff] at hfirst hthen ⊢
  intro h hh happlied
  obtain ⟨g, hg, hgapplied, hgh⟩ := hthen h hh happlied
  obtain ⟨f, hf, hfapplied, hfg⟩ := hfirst g hg hgapplied
  exact ⟨f, hf, hfapplied, hfg.trans hgh⟩

theorem covers_of_subset {fs gs : List Filter} (hsubset : fs ⊆ gs) :
    covers (compile allowed gs).groups (compile allowed fs).groups = true :=
  covers_compile_iff.mpr fun f hf happlied => ⟨f, hsubset hf, happlied, .refl f⟩

theorem exists_asksSame_of_forall₂ {fs gs : List Filter}
    (hsame : List.Forall₂ Filter.AsksSame fs gs) : ∀ g ∈ gs, ∃ f ∈ fs, f.AsksSame g := by
  induction hsame with
  | nil => simp
  | cons hfirst _ ih =>
      refine List.forall_mem_cons.mpr ⟨⟨_, List.mem_cons_self, hfirst⟩, fun g hg => ?_⟩
      obtain ⟨f, hf, hfg⟩ := ih g hg
      exact ⟨f, List.mem_cons_of_mem _ hf, hfg⟩

theorem covers_of_asksSame {fs gs : List Filter} (hsame : List.Forall₂ Filter.AsksSame fs gs) :
    covers (compile allowed fs).groups (compile allowed gs).groups = true := by
  rw [covers_compile_iff]
  intro g hg happlied
  obtain ⟨f, hf, hfg⟩ := exists_asksSame_of_forall₂ hsame g hg
  exact ⟨f, hf, hfg.isApplied_eq ▸ happlied, hfg⟩

/-- Coverage is a preorder on the predicates of filters.  Filters that differ only in the
kinds of their values cover each other, and filters cover all that are left of them when
some are taken away. -/
theorem covers_compile_preorder :
    (∀ allowed filters,
      covers (compile allowed filters).groups (compile allowed filters).groups = true) ∧
    (∀ allowed₁ allowed₂ allowed₃ fs gs hs,
      covers (compile allowed₁ fs).groups (compile allowed₂ gs).groups = true →
      covers (compile allowed₂ gs).groups (compile allowed₃ hs).groups = true →
      covers (compile allowed₁ fs).groups (compile allowed₃ hs).groups = true) ∧
    (∀ allowed fs gs, List.Forall₂ Filter.AsksSame fs gs →
      covers (compile allowed fs).groups (compile allowed gs).groups = true ∧
      covers (compile allowed gs).groups (compile allowed fs).groups = true) ∧
    ∀ allowed fs gs, List.Sublist fs gs →
      covers (compile allowed gs).groups (compile allowed fs).groups = true := by
  refine ⟨fun _ filters => covers_of_subset (List.Subset.refl filters),
    fun _ _ _ _ _ _ hfirst hthen => covers_trans hfirst hthen, ?_,
    fun _ _ _ hsublist => covers_of_subset hsublist.subset⟩
  intro allowed fs gs hsame
  have hback : List.Forall₂ Filter.AsksSame gs fs := by
    simpa only [flip] using hsame.flip.imp fun _ _ hfg => hfg.symm
  exact ⟨covers_of_asksSame hsame, covers_of_asksSame hback⟩

/-- The number of a network covers its text, also among more filters, and at one remove. -/
theorem covers_compile_preorder_network :
    let number : Filter := { column := "asn", value := .int 15169 }
    let text : Filter := { column := "asn", value := "15169" }
    let host : Filter := { column := "host", value := "a.com", exclude := .flag true }
    let p := fun filters => (compile Breakdown.allowedColumns filters).groups
    (List.Forall₂ Filter.AsksSame [number] [text] ∧ [number].Sublist [host, number]) ∧
    (covers (p [host, number]) (p [number]) = true ∧
      covers (p [number]) (p [text]) = true) ∧
    covers (p [host, number]) (p [text]) = true := by
  intro number text host p
  obtain ⟨-, htrans, hsame, hmore⟩ := covers_compile_preorder
  have hasks : List.Forall₂ Filter.AsksSame [number] [text] :=
    .cons ⟨rfl, rfl, rfl, by decide +kernel⟩ .nil
  have hsublist : [number].Sublist [host, number] := .cons _ (.refl _)
  have hgrown := hmore Breakdown.allowedColumns _ _ hsublist
  have hretyped := (hsame Breakdown.allowedColumns _ _ hasks).1
  exact ⟨⟨hasks, hsublist⟩, ⟨hgrown, hretyped⟩, htrans _ _ _ _ _ _ hgrown hretyped⟩

end FilterPredicate

end RequestBreakdown
