import Mathlib.Data.List.Nodup
import RequestBreakdown.Load.Backfill
import RequestBreakdown.Proofs.Sql.CaseText
import RequestBreakdown.Proofs.Sql.LookupText
import RequestBreakdown.Proofs.Value.Sameness

/-!
# The values of a look-up

Filters hold texts and integers.  These are the same only when they are equal, and
different ones have different literals.  A look-up therefore names each value that
is missing once.
-/

namespace RequestBreakdown

/-- A text or an integer. -/
def Value.IsPlain : Value → Prop
  | .int _ => True
  | .text _ => True
  | _ => False

namespace Value

theorem same_plain {a b : Value} (ha : a.IsPlain) (hb : b.IsPlain) :
    a.same b = true ↔ a = b := by
  cases a <;> cases b <;> simp_all [IsPlain, same_iff, key, holdsNaN]

end Value

/-! ## Literals -/

theorem toDigits_ten_injective {m n : Nat}
    (hdigits : Nat.toDigits 10 m = Nat.toDigits 10 n) : m = n := by
  have hvalue := congrArg (Nat.ofDigitChars 10 · 0) hdigits
  simpa only [Nat.ofDigitChars_ten_toDigits] using hvalue

theorem dash_notMem_toDigits (n : Nat) : '-' ∉ Nat.toDigits 10 n := by
  intro hmem
  have hdigit := Nat.isDigit_of_mem_toDigits (by decide) (by decide) hmem
  exact absurd hdigit (by decide)

namespace Literal

theorem toList_int (i : Int) : (toString i).toList =
    if i < 0 then '-' :: Nat.toDigits 10 i.natAbs else Nat.toDigits 10 i.natAbs := by
  rw [Int.toString_eq_repr]
  cases i with
  | ofNat n => simp [Int.repr, Nat.toList_repr]
  | negSucc n => simp [Int.repr, Nat.toList_repr]

theorem toString_int_injective {i j : Int} (htext : toString i = toString j) :
    i = j := by
  have hlists := congrArg String.toList htext
  rw [toList_int, toList_int] at hlists
  have hfirst := dash_notMem_toDigits i.natAbs
  have hsecond := dash_notMem_toDigits j.natAbs
  split at hlists
  · split at hlists
    · have habs := toDigits_ten_injective (List.cons.inj hlists).2
      omega
    · exact absurd (hlists ▸ List.mem_cons_self) hsecond
  · split at hlists
    · exact absurd (hlists ▸ List.mem_cons_self) hfirst
    · have habs := toDigits_ten_injective hlists
      omega

theorem quote_injective {s t : String} (hquote : quote s = quote t) : s = t := by
  have hread := congrArg (fun text : String => Lexeme.read text.toList) hquote
  simp only [Lexeme.read_quote] at hread
  exact String.toList_inj.mp (Lexeme.literal.inj (List.cons.inj hread).1)

theorem quote_ne_int (s : String) (i : Int) : quote s ≠ toString i := by
  intro heq
  have hmem : '\'' ∈ (quote s).toList := by simp [quote]
  rw [heq] at hmem
  exact noQuote_int i hmem

theorem ofValue_injective {a b : Value} (ha : a.IsPlain) (hb : b.IsPlain)
    (hliteral : ofValue a = ofValue b) : a = b := by
  cases a <;> cases b <;> simp only [Value.IsPlain] at ha hb <;>
    simp only [ofValue, Value.display] at hliteral
  · rw [toString_int_injective hliteral]
  · exact absurd hliteral.symm (quote_ne_int _ _)
  · exact absurd hliteral (quote_ne_int _ _)
  · rw [quote_injective hliteral]

end Literal

/-! ## Filters whose values are missing -/

namespace Filter

/-- The values of the filter are texts or integers. -/
def HasPlainValues (f : Filter) : Prop :=
  f.value.IsPlain ∧ (f.filterValue = .null ∨ f.filterValue.IsPlain)

/-- The filter is on a column, and its value, which is not empty, is none of the groups
of some rows. -/
def IsMissing (column : Value) (rows : List Row) (f : Filter) : Prop :=
  f.isOn column = true ∧ f.value.display ≠ "" ∧
    ∀ row ∈ rows, (row.get "dim").display ≠ f.value.display

end Filter

namespace Backfill

theorem containsGroup_eq_false {rows : List Row} {text : String} :
    containsGroup rows text = false ↔
      ∀ row ∈ rows, (row.get "dim").display ≠ text := by
  simp [containsGroup, Rows.groupText, Rows.groupColumn]

theorem mem_missingFilters {r : LoadRequest} {filters : List Filter}
    {rows : List Row} {f : Filter} :
    f ∈ missingFilters r filters rows ↔ f ∈ filters ∧ f.IsMissing r.column rows := by
  simp [missingFilters, Filter.IsMissing, containsGroup_eq_false, and_assoc]

theorem isPlain_searchValue {f : Filter} (hvalues : f.HasPlainValues)
    (column : Value) : (searchValue column f).IsPlain := by
  obtain ⟨hvalue, hfilterValue⟩ := hvalues
  unfold searchValue Filter.sqlValue
  split_ifs with hcolumn hnull
  · exact hvalue
  · exact hfilterValue.resolve_left hnull
  · exact hvalue

/-- Values found, and one more unless it is there. -/
def addDistinct (found : List Value) (value : Value) : List Value :=
  if found.any value.same then found else found ++ [value]

section Distinct

variable {found values : List Value} {value : Value}

theorem mem_addDistinct (hfound : ∀ v ∈ found, v.IsPlain) (hvalue : value.IsPlain)
    {v : Value} : v ∈ addDistinct found value ↔ v ∈ found ∨ v = value := by
  unfold addDistinct
  split_ifs with hany
  · obtain ⟨w, hw, hsame⟩ := List.any_eq_true.mp hany
    obtain rfl := (Value.same_plain hvalue (hfound w hw)).mp hsame
    constructor
    · exact .inl
    · rintro (hmem | rfl)
      · exact hmem
      · exact hw
  · simp

theorem nodup_addDistinct (hvalue : value.IsPlain) (hnodup : found.Nodup) :
    (addDistinct found value).Nodup := by
  unfold addDistinct
  split_ifs with hany
  · exact hnodup
  · have hself : value.same value = true := (Value.same_plain hvalue hvalue).mpr rfl
    have hnew : value ∉ found := fun hmem =>
      hany (List.any_eq_true.mpr ⟨value, hmem, hself⟩)
    rw [List.nodup_append]
    refine ⟨hnodup, List.nodup_singleton _, fun v hv w hw heq => hnew ?_⟩
    rw [List.mem_singleton.mp hw] at heq
    exact heq ▸ hv

theorem foldl_addDistinct (hvalues : ∀ v ∈ values, v.IsPlain)
    (hfound : ∀ v ∈ found, v.IsPlain) (hnodup : found.Nodup) :
    (values.foldl addDistinct found).Nodup ∧
      ∀ v, v ∈ values.foldl addDistinct found ↔ v ∈ found ∨ v ∈ values := by
  induction values generalizing found with
  | nil => simpa using hnodup
  | cons value rest ih =>
      have hvalue := hvalues value List.mem_cons_self
      have hadded : ∀ v ∈ addDistinct found value, v.IsPlain := by
        intro v hv
        rcases (mem_addDistinct hfound hvalue).mp hv with hv | rfl
        · exact hfound v hv
        · exact hvalue
      obtain ⟨hrest, hmem⟩ := ih (fun v hv => hvalues v (List.mem_cons_of_mem _ hv))
        hadded (nodup_addDistinct hvalue hnodup)
      refine ⟨hrest, fun v => ?_⟩
      rw [List.foldl_cons, hmem v, mem_addDistinct hfound hvalue, List.mem_cons,
        or_assoc]

theorem distinct_spec (hvalues : ∀ v ∈ values, v.IsPlain) :
    (distinct values).Nodup ∧ ∀ v, v ∈ distinct values ↔ v ∈ values := by
  have hnone : ∀ v ∈ ([] : List Value), v.IsPlain := by simp
  obtain ⟨hnodup, hmem⟩ := foldl_addDistinct hvalues hnone List.nodup_nil
  refine ⟨hnodup, fun v => (hmem v).trans ?_⟩
  simp

end Distinct

/-- The literals that a look-up names, one for each value that is missing. -/
def literals (r : LoadRequest) (filters : List Filter) (rows : List Row) : List String :=
  (searchValues (searchColumn r) (missingFilters r filters rows)).map Literal.ofValue

theorem literals_spec (r : LoadRequest) {filters : List Filter}
    (hvalues : ∀ f ∈ filters, f.HasPlainValues) (rows : List Row) :
    (literals r filters rows).Nodup ∧ ∀ text, text ∈ literals r filters rows ↔
      ∃ f ∈ filters, f.IsMissing r.column rows ∧
        text = Literal.ofValue (searchValue (searchColumn r) f) := by
  have hplain : ∀ v ∈ (missingFilters r filters rows).map (searchValue (searchColumn r)),
      v.IsPlain := by
    intro v hv
    obtain ⟨f, hf, rfl⟩ := List.mem_map.mp hv
    exact isPlain_searchValue (hvalues f (mem_missingFilters.mp hf).1) _
  obtain ⟨hnodup, hmem⟩ := distinct_spec hplain
  constructor
  · apply List.Nodup.map_on _ hnodup
    intro v hv w hw
    exact Literal.ofValue_injective (hplain v ((hmem v).mp hv)) (hplain w ((hmem w).mp hw))
  · intro text
    constructor
    · intro htext
      obtain ⟨v, hv, rfl⟩ := List.mem_map.mp htext
      obtain ⟨f, hf, rfl⟩ := List.mem_map.mp ((hmem v).mp hv)
      obtain ⟨hin, hmissing⟩ := mem_missingFilters.mp hf
      exact ⟨f, hin, hmissing, rfl⟩
    · rintro ⟨f, hf, hmissing, rfl⟩
      have hsought := mem_missingFilters.mpr ⟨hf, hmissing⟩
      exact List.mem_map_of_mem ((hmem _).mpr (List.mem_map_of_mem hsought))

section Query

variable {r : LoadRequest} {filters : List Filter} {rows : List Row}

theorem query?_of_none_missing (modes : CountingModes) (stage : SamplingStage)
    (hnone : ∀ f ∈ filters, ¬ f.IsMissing r.column rows) :
    query? r modes stage filters rows = none := by
  have hempty : missingFilters r filters rows = [] := by
    rw [List.eq_nil_iff_forall_not_mem]
    intro f hf
    obtain ⟨hin, hmissing⟩ := mem_missingFilters.mp hf
    exact hnone f hin hmissing
  unfold query?
  rw [hempty]

theorem query?_of_missing (modes : CountingModes) (stage : SamplingStage)
    (hvalues : ∀ f ∈ filters, f.HasPlainValues)
    (hsome : ∃ f ∈ filters, f.IsMissing r.column rows) :
    query? r modes stage filters rows =
      some (Query.lookupText r.column.display (searchColumn r).display
        (literals r filters rows) (r.aggregations modes stage) stage r.condition) := by
  obtain ⟨f, hf, hmissing⟩ := hsome
  have hliteral := ((literals_spec r hvalues rows).2 _).mpr ⟨f, hf, hmissing, rfl⟩
  have hsought : searchValues (searchColumn r) (missingFilters r filters rows) ≠ [] := by
    intro hempty
    rw [literals, hempty] at hliteral
    exact absurd hliteral (by simp)
  unfold query?
  split
  · rename_i hempty
    have hin := mem_missingFilters.mpr ⟨hf, hmissing⟩
    rw [hempty] at hin
    exact absurd hin (by simp)
  · dsimp only
    rw [Query.lookup_eq hsought]
    rfl

end Query

end Backfill

end RequestBreakdown
