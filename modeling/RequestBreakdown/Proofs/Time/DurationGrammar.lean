import Mathlib.Data.List.DropRight
import RequestBreakdown.Proofs.Value.PlainNumerals
import RequestBreakdown.Time.DurationText

/-!
# The grammar of durations

A text of a duration is made of components, each a numeral of digits with the name of a
unit behind it.  A text is read as components in the only way in which it is made of
them, and whatever is so made denotes a duration or is too long to be one.
-/

namespace RequestBreakdown

theorem mem_of_lookup {β : Type} {entries : List (String × β)} {name : String} {value : β}
    (hlookup : entries.lookup name = some value) : (name, value) ∈ entries := by
  obtain ⟨before, after, hsplit, -⟩ := List.lookup_eq_some_iff.mp hlookup
  rw [hsplit]
  exact List.mem_append_right _ List.mem_cons_self

namespace Text

/-- What a text is when the blanks around it are taken away. -/
def IsTrimmed (blank : Char → Bool) (whole inner : List Char) : Prop :=
  ∃ front back, whole = front ++ (inner ++ back) ∧
    (∀ c ∈ front, blank c = true) ∧ (∀ c ∈ back, blank c = true) ∧
    (∀ c, inner.head? = some c → blank c = false) ∧
    ∀ c, inner.getLast? = some c → blank c = false

variable {blank : Char → Bool} {whole inner : List Char}

theorem isTrimmed_trimBy (blank : Char → Bool) (whole : List Char) :
    IsTrimmed blank whole (trimBy blank whole) := by
  have htrim : trimBy blank whole = (whole.dropWhile blank).rdropWhile blank := rfl
  rw [htrim]
  refine ⟨whole.takeWhile blank, (whole.dropWhile blank).rtakeWhile blank, ?_,
    fun c => List.mem_takeWhile_imp, fun c => List.mem_rtakeWhile_imp, ?_, ?_⟩
  · rw [List.rdropWhile_append_rtakeWhile, List.takeWhile_append_dropWhile]
  · intro c hc
    obtain ⟨cut, hcut⟩ := List.rdropWhile_prefix blank (whole.dropWhile blank)
    have hfirst := List.head?_dropWhile_not blank whole
    rw [← hcut, List.head?_append, hc] at hfirst
    exact hfirst
  · intro c hc
    have hsome : (whole.dropWhile blank).rdropWhile blank ≠ [] := by
      rintro hnil
      simp [hnil] at hc
    rw [List.getLast?_eq_some_getLast hsome, Option.some.injEq] at hc
    rw [← hc]
    exact Bool.eq_false_iff.mpr (List.rdropWhile_last_not blank _ hsome)

theorem IsTrimmed.eq_trimBy (htrimmed : IsTrimmed blank whole inner) :
    inner = trimBy blank whole := by
  obtain ⟨front, back, rfl, hfront, hback, hfirst, hlast⟩ := htrimmed
  unfold trimBy trimStartBy trimEndBy
  by_cases hnil : inner = []
  · subst hnil
    have hnone : (front ++ ([] ++ back)).dropWhile blank = [] := by
      simpa [or_imp, forall_and] using ⟨hfront, hback⟩
    rw [hnone]
    rfl
  · have hhead : ∀ c, (inner ++ back).head? = some c → blank c = false := by
      rwa [List.head?_append_of_ne_nil _ hnil]
    rw [(takeWhile_append_stop hfront hhead).2, List.reverse_append]
    have hend : ∀ c, inner.reverse.head? = some c → blank c = false := by
      rwa [List.head?_reverse]
    have hblanks : ∀ c ∈ back.reverse, blank c = true := fun c hc =>
      hback c (List.mem_reverse.mp hc)
    rw [(takeWhile_append_stop hblanks hend).2, List.reverse_reverse]

theorem isTrimmed_iff : IsTrimmed blank whole inner ↔ inner = trimBy blank whole := by
  refine ⟨IsTrimmed.eq_trimBy, ?_⟩
  rintro rfl
  exact isTrimmed_trimBy blank whole

end Text

namespace DurationText

open Text

/-- The texts of the components, one behind the other, make up the text. -/
inductive Spells : List Char → List Component → Prop
  | nil : Spells [] []
  | cons {number rest : List Char} {name : String} {unit : Nat} {later : List Component}
      (hnumber : IsDigitNumeral number) (hunit : (name, unit) ∈ unitSeconds)
      (hrest : Spells rest later) :
      Spells (number ++ (name.toList ++ rest)) (⟨number, unit⟩ :: later)

variable {cs number rest : List Char} {name : String} {unit : Nat}
  {component : Component} {components : List Component}

/-! ## Names of units -/

theorem lookup_unitSeconds : unitSeconds.lookup name = some unit ↔ (name, unit) ∈ unitSeconds := by
  have hall : ∀ entry ∈ unitSeconds, unitSeconds.lookup entry.1 = some entry.2 := by
    simp [unitSeconds, List.lookup_cons]
  exact ⟨mem_of_lookup, fun hmem => hall _ hmem⟩

theorem isUnitLetter_of_mem (hunit : (name, unit) ∈ unitSeconds) :
    name.toList ≠ [] ∧ ∀ c ∈ name.toList, isUnitLetter c = true := by
  have hall : ∀ entry ∈ unitSeconds,
      entry.1.toList ≠ [] ∧ ∀ c ∈ entry.1.toList, isUnitLetter c = true := by
    simp [unitSeconds, isUnitLetter]
  exact hall _ hunit

theorem isUnitLetter_of_isDecimalDigit {c : Char} (hc : isDecimalDigit c = true) :
    isUnitLetter c = false := by
  have hzeros : ∀ first ∈ digitZeros, first + 10 ≤ 97 ∨ 122 < first := by decide
  rw [isDecimalDigit, digitValue?, Option.isSome_map, List.find?_isSome] at hc
  obtain ⟨first, hfirst, hbounds⟩ := hc
  rw [decide_eq_true_eq] at hbounds
  have hapart := hzeros first hfirst
  rw [isUnitLetter, decide_eq_false_iff_not]
  intro hletter
  have hcode : 97 ≤ c.toNat ∧ c.toNat ≤ 122 := hletter
  omega

/-! ## Components -/

theorem spanNumber_append (hnumber : IsDigitNumeral number)
    (hrest : ∀ c, rest.head? = some c → isUnitLetter c = true) :
    spanNumber (number ++ rest) = (number, rest) ∧
      (number ++ rest).takeWhile isDecimalDigit ≠ [] := by
  obtain ⟨whole, hsome, hwhole, hform⟩ := hnumber
  have hstop : ∀ c, rest.head? = some c → isDecimalDigit c = false := by
    intro c hc
    rw [← Bool.not_eq_true]
    intro hdigit
    have hletter := hrest c hc
    rw [isUnitLetter_of_isDecimalDigit hdigit] at hletter
    cases hletter
  rcases hform with rfl | ⟨fraction, hfraction, rfl⟩
  · obtain ⟨htake, hdrop⟩ := takeWhile_append_stop hwhole hstop
    rw [htake]
    refine ⟨?_, hsome⟩
    unfold spanNumber
    simp only [htake, hdrop]
    split
    · rename_i later
      exact absurd (hrest '.' rfl) (by decide)
    · rfl
  · have hpoint : ∀ c, ('.' :: (fraction ++ rest)).head? = some c →
        isDecimalDigit c = false := by
      rintro c ⟨⟩
      decide
    obtain ⟨htake, hdrop⟩ := takeWhile_append_stop hwhole hpoint
    obtain ⟨htake', hdrop'⟩ := takeWhile_append_stop hfraction hstop
    rw [List.append_assoc, List.cons_append, htake]
    refine ⟨?_, hsome⟩
    unfold spanNumber
    simp only [htake, hdrop, htake', hdrop']

/-- The text of a numeral and what is left, put together. -/
theorem spanNumber_cases (cs : List Char) (hsome : cs.takeWhile isDecimalDigit ≠ []) :
    IsDigitNumeral (spanNumber cs).1 ∧ cs = (spanNumber cs).1 ++ (spanNumber cs).2 := by
  have hsplit := List.takeWhile_append_dropWhile (p := isDecimalDigit) (l := cs)
  have hdigits : ∀ (l : List Char), ∀ c ∈ l.takeWhile isDecimalDigit, isDecimalDigit c = true :=
    fun l c hc => List.mem_takeWhile_imp hc
  unfold spanNumber
  split
  · rename_i later hdrop
    refine ⟨⟨_, hsome, hdigits cs, .inr ⟨_, hdigits later, rfl⟩⟩, ?_⟩
    simp only [List.append_assoc, List.cons_append, List.takeWhile_append_dropWhile]
    rw [← hdrop, hsplit]
  · exact ⟨⟨_, hsome, hdigits cs, .inl rfl⟩, hsplit.symm⟩

/-- A component is taken where the text begins with one and no letter stands behind it. -/
theorem takeComponent?_eq_some :
    takeComponent? cs = some (component, rest) ↔
      ∃ name, IsDigitNumeral component.number ∧ (name, component.unit) ∈ unitSeconds ∧
        cs = component.number ++ (name.toList ++ rest) ∧
        ∀ c, rest.head? = some c → isUnitLetter c = false := by
  constructor
  · intro htake
    unfold takeComponent? at htake
    simp only at htake
    split at htake
    · cases htake
    · rename_i hsome
      simp only [Bool.or_eq_true, List.isEmpty_iff, not_or] at hsome
      simp only [Option.map_eq_some_iff, Prod.mk.injEq] at htake
      obtain ⟨unit, hlookup, rfl, rfl⟩ := htake
      obtain ⟨hnumber, hcs⟩ := spanNumber_cases cs hsome.1
      refine ⟨_, hnumber, lookup_unitSeconds.mp hlookup, ?_, ?_⟩
      · rw [String.toList_ofList, List.takeWhile_append_dropWhile]
        exact hcs
      · intro c hc
        have hnot := List.head?_dropWhile_not isUnitLetter (spanNumber cs).2
        rw [hc] at hnot
        exact hnot
  · rintro ⟨name, hnumber, hunit, rfl, hstop⟩
    obtain ⟨hsome, hletters⟩ := isUnitLetter_of_mem hunit
    obtain ⟨htake, hdrop⟩ := takeWhile_append_stop hletters hstop
    have hfirst : ∀ c, (name.toList ++ rest).head? = some c → isUnitLetter c = true := by
      intro c hc
      obtain ⟨d, more, hname⟩ := List.exists_cons_of_ne_nil hsome
      rw [hname, List.cons_append, List.head?_cons, Option.some.injEq] at hc
      exact hletters c (by rw [hname, hc]; exact List.mem_cons_self)
    obtain ⟨hspan, hdigits⟩ := spanNumber_append hnumber hfirst
    unfold takeComponent?
    simp only [hspan, htake, hdrop, String.ofList_toList, lookup_unitSeconds.mpr hunit]
    simp [hdigits, hsome]

/-! ## Texts of components -/

/-- What is spelled begins with a digit, and so does not go on with a name in front of it. -/
theorem Spells.head?_not_letter (hspells : Spells cs components) :
    ∀ c, cs.head? = some c → isUnitLetter c = false := by
  intro c hc
  cases hspells with
  | nil => cases hc
  | cons hnumber hunit hrest =>
      obtain ⟨d, more, rfl, hd⟩ := hnumber.exists_cons
      rw [List.cons_append, List.head?_cons, Option.some.injEq] at hc
      rw [← hc]
      exact isUnitLetter_of_isDecimalDigit hd

theorem Spells.eq_nil_iff (hspells : Spells cs components) : cs = [] ↔ components = [] := by
  cases hspells with
  | nil => exact ⟨fun _ => rfl, fun _ => rfl⟩
  | cons hnumber hunit hrest =>
      obtain ⟨d, more, rfl, -⟩ := hnumber.exists_cons
      simp

theorem Spells.components?_eq (hspells : Spells cs components) :
    components? cs = some components := by
  induction hspells with
  | nil => rw [components?]
  | @cons number rest name unit later hnumber hunit hrest ih =>
      have htake : takeComponent? (number ++ (name.toList ++ rest)) = some (⟨number, unit⟩, rest) :=
        takeComponent?_eq_some.mpr ⟨name, hnumber, hunit, rfl, hrest.head?_not_letter⟩
      obtain ⟨c, more, rfl, -⟩ := hnumber.exists_cons
      rw [List.cons_append] at htake ⊢
      rw [components?]
      split
      · rename_i hnone
        rw [htake] at hnone
        cases hnone
      · rename_i component rest' hsome
        rw [htake] at hsome
        cases hsome
        rw [ih, Option.map_some]

theorem spells_of_components? (hcomponents : components? cs = some components) :
    Spells cs components := by
  fun_induction components? cs generalizing components with
  | case1 =>
      cases hcomponents
      exact .nil
  | case2 => cases hcomponents
  | case3 c more component rest htake hlength ih =>
      obtain ⟨later, hlater, rfl⟩ := Option.map_eq_some_iff.mp hcomponents
      obtain ⟨name, hnumber, hunit, hcs, -⟩ := takeComponent?_eq_some.mp htake
      rw [hcs]
      exact .cons hnumber hunit (ih hlater)

/-- Reading finds the components that make up the text, and there is one way only. -/
theorem components?_eq_some : components? cs = some components ↔ Spells cs components :=
  ⟨spells_of_components?, Spells.components?_eq⟩

/-! ## What the components come to -/

theorem ofInt_unit (hunit : (name, unit) ∈ unitSeconds) :
    (Binary64.ofInt unit).IsAmount ∧ (Binary64.ofInt unit).isFinite = true ∧
      (Binary64.ofInt unit).isZero = false := by
  have hbounds : ∀ entry ∈ unitSeconds, 0 < entry.2 ∧ entry.2 < 2 ^ 53 := by decide
  obtain ⟨hpos, hlt⟩ := hbounds _ hunit
  have hsign : decide ((unit : Int) < 0) = false := by simp
  obtain ⟨mantissa, exponent, hratio, hvalue⟩ := Binary64.exists_ofRatio_of_lt false hlt
  have hofInt : Binary64.ofInt unit = .finite false mantissa exponent := by
    rw [Binary64.ofInt, hsign, Int.natAbs_natCast, hratio]
  have hsome : mantissa ≠ 0 := by
    rintro rfl
    have hunits := Nat.mul_pos hpos Binary64.unitsPerOne_pos
    omega
  rw [hofInt]
  exact ⟨Binary64.isAmount_finite .., rfl, beq_false_of_ne hsome⟩

/-- The number of a component is always readable, and its seconds are an amount. -/
theorem Spells.seconds (hspells : Spells cs components) :
    ∀ component ∈ components,
      (readNumber? (String.ofList component.number)).isSome = true ∧
        component.seconds.IsAmount := by
  induction hspells with
  | nil => simp
  | cons hnumber hunit hrest ih =>
      obtain ⟨x, hread, hx⟩ := hnumber.exists_readNumber?
      obtain ⟨hamount, hfinite, hzero⟩ := ofInt_unit hunit
      refine List.forall_mem_cons.mpr ⟨⟨?_, ?_⟩, ih⟩
      · rw [hread, Option.isSome_some]
      · rw [Component.seconds, hread, Option.getD_some]
        exact hx.mul hamount hfinite hzero

theorem Spells.isAmount_totalSeconds (hspells : Spells cs components) :
    (totalSeconds components).IsAmount := by
  have hsum : ∀ (items : List Component) (total : Binary64), total.IsAmount →
      (∀ component ∈ items, component.seconds.IsAmount) →
        (items.foldl (fun total c => total.add c.seconds) total).IsAmount := by
    intro items
    induction items with
    | nil => exact fun total htotal _ => htotal
    | cons component items ih =>
        intro total htotal hitems
        obtain ⟨hfirst, hlater⟩ := List.forall_mem_cons.mp hitems
        exact ih _ (htotal.add hfirst) hlater
  exact hsum components .zero Binary64.isAmount_zero fun component hmem =>
    (hspells.seconds component hmem).2

/-- What there is to be read of a text: what stands between the blanks around it, in lower
case, without spaces, and without one `ago` at its end. -/
def IsCompact (spec : String) (w : List Char) : Prop :=
  ∃ inner plain, IsTrimmed isBlank spec.toList inner ∧
    plain = (inner.map lowerChar).filter (· != ' ') ∧
    (plain = w ++ ['a', 'g', 'o'] ∨ (plain = w ∧ ¬ ['a', 'g', 'o'] <:+ plain))

theorem isCompact_iff {spec : String} {w : List Char} : IsCompact spec w ↔ w = compact spec := by
  obtain ⟨plain, hplain⟩ : ∃ plain, plain =
      ((trimBy isBlank spec.toList).map lowerChar).filter (· != ' ') := ⟨_, rfl⟩
  have hcompact : compact spec =
      if ['a', 'g', 'o'] <:+ plain then plain.take (plain.length - 3) else plain := by
    have hlower : (lower (trim spec)).toList.filter (· != ' ') = plain := by
      rw [lower, trim, String.toList_map, String.toList_ofList, hplain]
    unfold compact
    simp only [hlower, List.isSuffixOf_iff_suffix]
  have hleft : IsCompact spec w ↔
      plain = w ++ ['a', 'g', 'o'] ∨ (plain = w ∧ ¬ ['a', 'g', 'o'] <:+ plain) := by
    unfold IsCompact
    simp only [isTrimmed_iff]
    constructor
    · rintro ⟨_, _, rfl, rfl, hw⟩
      rwa [hplain]
    · exact fun hw => ⟨_, plain, rfl, hplain, hw⟩
  rw [hleft, hcompact]
  split
  · rename_i hago
    obtain ⟨front, rfl⟩ := hago
    simp [eq_comm]
  · rename_i hago
    have hnot : plain ≠ w ++ ['a', 'g', 'o'] := fun h => hago ⟨w, h.symm⟩
    simp [hnot, hago, eq_comm]

/-- The texts of durations: components, at least one. -/
def IsDurationText (cs : List Char) : Prop := ∃ components ≠ [], Spells cs components

end DurationText

namespace Duration

open DurationText

theorem checked_cases (micros : Int) :
    (checked micros = .ok ⟨micros⟩) ∨ checked micros = .error (.range .duration) := by
  rw [checked]
  split
  · exact .inl rfl
  · exact .inr rfl

/-- An amount of seconds is a duration or too long to be one. -/
theorem ofSeconds_cases {seconds : Binary64} (hseconds : seconds.IsAmount) :
    (∃ d, ofSeconds seconds = .ok d) ∨ ∃ fault, ofSeconds seconds = .error (.range fault) := by
  rcases hseconds.cases with rfl | ⟨mantissa, exponent, rfl⟩
  · exact .inr ⟨.infinityToInteger, rfl⟩
  · obtain ⟨whole, hwhole⟩ : ∃ whole,
        (Binary64.finite false mantissa exponent).truncate? = some whole := ⟨_, rfl⟩
    simp only [ofSeconds, hwhole]
    rcases checked_cases _ with hok | hlong
    · exact .inl ⟨_, hok⟩
    · exact .inr ⟨_, hlong⟩

/-- A text that is made of components denotes their sum. -/
theorem read?_of_spells {spec : String} {components : List Component}
    (hspells : Spells (compact spec) components) (hsome : components ≠ []) :
    read? spec = (ofSeconds (totalSeconds components)).map some := by
  have hcs : compact spec ≠ [] := fun hnil => hsome (hspells.eq_nil_iff.mp hnil)
  unfold read?
  split
  · contradiction
  · rw [components?_eq_some.mpr hspells]

theorem read?_of_not_isDurationText {spec : String}
    (hnone : ¬ IsDurationText (compact spec)) : read? spec = .ok none := by
  unfold read?
  split
  · rfl
  · rename_i cs hcs
    split
    · rfl
    · rename_i components hcomponents
      have hspells := components?_eq_some.mp hcomponents
      exact absurd ⟨components, fun hnil => hcs (hspells.eq_nil_iff.mpr hnil), hspells⟩ hnone

theorem read?_cases (spec : String) :
    (¬ IsDurationText (compact spec) ∧ read? spec = .ok none) ∨
      (IsDurationText (compact spec) ∧
        ((∃ d, read? spec = .ok (some d)) ∨ ∃ fault, read? spec = .error (.range fault))) := by
  by_cases htext : IsDurationText (compact spec)
  · have ⟨components, hsome, hspells⟩ := htext
    rw [read?_of_spells hspells hsome]
    rcases ofSeconds_cases hspells.isAmount_totalSeconds with ⟨d, hd⟩ | ⟨range, hrange⟩
    · rw [hd]
      exact .inr ⟨htext, .inl ⟨d, rfl⟩⟩
    · rw [hrange]
      exact .inr ⟨htext, .inr ⟨range, rfl⟩⟩
  · exact .inl ⟨htext, read?_of_not_isDurationText htext⟩

/-- A text denotes a duration, or one that is too long, just when what there is to be read
of it is made of components; every other text denotes none.  Nothing else can go wrong. -/
theorem read?_exact (spec : String) :
    ∃ w, (∀ v, IsCompact spec v ↔ v = w) ∧
      (read? spec = .ok none ↔ w = [] ∨ ¬ IsDurationText w) ∧
      (IsDurationText w ↔
        (∃ d, read? spec = .ok (some d)) ∨ ∃ fault, read? spec = .error (.range fault)) ∧
      ∀ fault, read? spec = .error fault → ∃ range, fault = .range range := by
  refine ⟨compact spec, fun _ => isCompact_iff, ?_⟩
  have hempty : compact spec = [] → ¬ IsDurationText (compact spec) := by
    rintro hnil ⟨components, hsome, hspells⟩
    exact hsome (hspells.eq_nil_iff.mp hnil)
  rcases read?_cases spec with ⟨htext, hread⟩ | ⟨htext, ⟨d, hread⟩ | ⟨range, hread⟩⟩
  · simp [hread, htext]
  · have hsome := mt hempty (not_not_intro htext)
    simp [hread, htext, hsome]
  · have hsome := mt hempty (not_not_intro htext)
    simp [hread, htext, hsome]

/-- Two hours, with a capital, spaces and the closing word. -/
example : read? "2 H ago" = .ok (some ⟨2 * 3600 * 1000000⟩) := by
  have hcompact : compact "2 H ago" = ['2'] ++ ("h".toList ++ []) := by decide +kernel
  have hnumber : Text.IsDigitNumeral ['2'] :=
    ⟨['2'], by simp, List.forall_mem_singleton.mpr (by decide), .inl rfl⟩
  have hspells : Spells (compact "2 H ago") [⟨['2'], 3600⟩] := by
    rw [hcompact]
    exact .cons hnumber (by decide) .nil
  rw [read?_of_spells hspells (by simp)]
  decide +kernel

end Duration

end RequestBreakdown
