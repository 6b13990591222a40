import Mathlib.Data.List.TakeWhile
import RequestBreakdown.Proofs.Value.Amounts

/-!
# Numerals of digits

A numeral of digits has at least one digit, and may have a point with digits or nothing
behind it.  Whatever the scripts of its digits are, it can be read, and it is the numeral
of an amount.
-/

namespace RequestBreakdown

namespace Text

/-- Digits, which may be followed by a point and then by more digits or none. -/
def IsDigitNumeral (cs : List Char) : Prop :=
  ∃ whole, whole ≠ [] ∧ (∀ c ∈ whole, isDecimalDigit c = true) ∧
    (cs = whole ∨
      ∃ fraction, (∀ c ∈ fraction, isDecimalDigit c = true) ∧ cs = whole ++ '.' :: fraction)

theorem IsDigitNumeral.exists_cons {cs : List Char} (hcs : IsDigitNumeral cs) :
    ∃ c rest, cs = c :: rest ∧ isDecimalDigit c = true := by
  obtain ⟨whole, hsome, hwhole, hform⟩ := hcs
  obtain ⟨c, rest, rfl⟩ := List.exists_cons_of_ne_nil hsome
  have hc := hwhole c List.mem_cons_self
  rcases hform with rfl | ⟨fraction, -, rfl⟩
  · exact ⟨c, rest, rfl, hc⟩
  · exact ⟨c, rest ++ '.' :: fraction, rfl, hc⟩

/-! ## Characters of a numeral -/

/-- A character as it stands in a numeral whose digits were made plain. -/
def plain (c : Char) : Char := (plainDigit? c).getD c

/-- The characters of a numeral of plain digits. -/
def IsPlain (c : Char) : Prop := c.isDigit = true ∨ c = '.'

theorem isDigit_plain {c : Char} (hc : isDecimalDigit c = true) : (plain c).isDigit = true := by
  have hten : ∀ value < 10, (Char.ofNat ('0'.toNat + value)).isDigit = true := by decide
  obtain ⟨value, hvalue⟩ := Option.isSome_iff_exists.mp hc
  obtain ⟨first, hfirst, hdistance⟩ := Option.map_eq_some_iff.mp hvalue
  have hbounds := List.find?_some hfirst
  rw [decide_eq_true_eq] at hbounds
  have hplain : plain c = Char.ofNat ('0'.toNat + value) := by
    simp [plain, plainDigit?, hvalue]
  rw [hplain]
  exact hten value (by omega)

theorem plain_point : plain '.' = '.' := by decide

theorem IsPlain.not_blank {c : Char} (hc : IsPlain c) : isNumberBlank c = false := by
  have hblank : isBlank c = false := by
    rcases hc with hdigit | rfl
    · have hcode : 48 ≤ c.toNat ∧ c.toNat ≤ 57 := Char.isDigit_iff_toNat.mp hdigit
      have hranges : ∀ range ∈ blankRanges, range.2 < 48 ∨ 57 < range.1 := by decide
      rw [isBlank, List.any_eq_false]
      intro range hrange
      have hapart := hranges range hrange
      rw [decide_eq_true_eq]
      omega
    · decide
  rw [isNumberBlank, hblank, Bool.false_and]

theorem IsPlain.ne_underscore {c : Char} (hc : IsPlain c) : c ≠ '_' := by
  rintro rfl
  rcases hc with hdigit | hpoint
  · cases hdigit
  · cases hpoint

/-! ## Reading -/

theorem trimBy_of_none {blank : Char → Bool} {cs : List Char}
    (hcs : ∀ c ∈ cs, blank c = false) : trimBy blank cs = cs := by
  have hdrop : ∀ l : List Char, (∀ c ∈ l, blank c = false) → l.dropWhile blank = l := by
    intro l hl
    cases l with
    | nil => rfl
    | cons c rest => simp [hl c List.mem_cons_self]
  have hreverse := hdrop cs.reverse fun c hc => hcs c (List.mem_reverse.mp hc)
  rw [trimBy, trimStartBy, hdrop cs hcs, trimEndBy, hreverse, List.reverse_reverse]

theorem dropUnderscores?_of_none {cs : List Char} (hcs : ∀ c ∈ cs, c ≠ '_') :
    dropUnderscores? cs = some cs := by
  fun_induction dropUnderscores? cs with
  | case1 => rfl
  | case2 rest => exact absurd rfl (hcs '_' List.mem_cons_self)
  | case3 c hc d rest hdigits ih => exact absurd rfl (hcs '_' (by simp))
  | case4 c hc d rest hdigits => exact absurd rfl (hcs '_' (by simp))
  | case5 c rest hc hnext ih =>
      rw [ih fun d hd => hcs d (List.mem_cons_of_mem c hd)]
      rfl

/-- A span is the front whose characters all pass, when the next one does not. -/
theorem takeWhile_append_stop {p : Char → Bool} {front rest : List Char}
    (hfront : ∀ c ∈ front, p c = true) (hrest : ∀ c, rest.head? = some c → p c = false) :
    (front ++ rest).takeWhile p = front ∧ (front ++ rest).dropWhile p = rest := by
  have hstop : rest.takeWhile p = [] ∧ rest.dropWhile p = rest := by
    cases rest with
    | nil => exact ⟨rfl, rfl⟩
    | cons c rest => simp [hrest c rfl]
  rw [List.takeWhile_append_of_pos hfront, List.dropWhile_append_of_pos hfront, hstop.1,
    hstop.2, List.append_nil]
  exact ⟨rfl, rfl⟩

theorem spanDigits_append {digits rest : List Char} (hdigits : ∀ c ∈ digits, c.isDigit = true)
    (hrest : ∀ c, rest.head? = some c → c.isDigit = false) :
    spanDigits (digits ++ rest) = (digits, rest) := by
  obtain ⟨htake, hdrop⟩ := takeWhile_append_stop hdigits hrest
  rw [spanDigits, htake, hdrop]

theorem toLower_of_isDigit {c : Char} (hc : c.isDigit = true) : c.toLower = c := by
  have hcode : 48 ≤ c.toNat ∧ c.toNat ≤ 57 := Char.isDigit_iff_toNat.mp hc
  unfold Char.toLower
  rw [dif_neg]
  rintro ⟨hcapital, -⟩
  have hbound : 65 ≤ c.toNat := UInt32.le_iff_toNat_le.mp hcapital
  omega

/-- A text of plain characters with a digit in front is a decimal, and no name. -/
theorem readNumber?_eq {s : String} {c : Char} {rest : List Char}
    (hchars : numeralChars s = c :: rest) (hc : c.isDigit = true)
    (hplain : ∀ d ∈ c :: rest, IsPlain d) :
    readNumber? s = readDecimal? false (c :: rest) := by
  have hsign : takeSign (c :: rest) = (false, c :: rest) := by
    unfold takeSign
    split
    · rename_i heq
      cases heq
      cases hc
    · rename_i heq
      cases heq
      cases hc
    · rfl
  have hname : ∀ d more, d.isDigit = false →
      String.ofList ((c :: rest).map Char.toLower) ≠ String.ofList (d :: more) := by
    intro d more hd heq
    have hfirst := (List.cons.inj (String.ofList_injective heq)).1
    rw [toLower_of_isDigit hc] at hfirst
    rw [hfirst, hd] at hc
    cases hc
  have hinf := hname 'i' ['n', 'f'] rfl
  have hinfinity := hname 'i' ['n', 'f', 'i', 'n', 'i', 't', 'y'] rfl
  have hnan := hname 'n' ['a', 'n'] rfl
  have hwhole := dropUnderscores?_of_none fun d hd => (hplain d hd).ne_underscore
  simp only [readNumber?, hchars, hwhole, hsign, Option.bind_eq_bind, Option.bind_some]
  rw [if_neg, if_neg hnan]
  rintro (h | h)
  · exact hinf h
  · exact hinfinity h

/-- Digits with a point and digits behind them, or with nothing behind them. -/
theorem readDecimal?_digits {digits fraction : List Char}
    (hdigits : ∀ c ∈ digits, c.isDigit = true) (hsome : digits ≠ [])
    (hfraction : ∀ c ∈ fraction, c.isDigit = true) :
    readDecimal? false digits = some (ofDecimal false digits 0) ∧
      readDecimal? false (digits ++ '.' :: fraction) =
        some (ofDecimal false (digits ++ fraction) (-fraction.length)) := by
  have hall : ∀ cs : List Char, (∀ c ∈ cs, c.isDigit = true) → spanDigits cs = (cs, []) := by
    intro cs hcs
    have hspan : spanDigits (cs ++ []) = (cs, []) := spanDigits_append hcs (by simp)
    rwa [List.append_nil] at hspan
  have hwhole := hall digits hdigits
  have hbehind := hall fraction hfraction
  have hpoint : spanDigits (digits ++ '.' :: fraction) = (digits, '.' :: fraction) :=
    spanDigits_append hdigits (by simp)
  constructor
  · simp [readDecimal?, hwhole, hsome, readExponent?]
  · simp [readDecimal?, hpoint, hbehind, hsome, readExponent?]

theorem IsDigitNumeral.exists_readNumber? {cs : List Char} (hcs : IsDigitNumeral cs) :
    ∃ x, readNumber? (String.ofList cs) = some x ∧ x.IsAmount := by
  obtain ⟨c, rest, hcons, hc⟩ := hcs.exists_cons
  have hfirst : cs.map plain = plain c :: rest.map plain := by rw [hcons, List.map_cons]
  obtain ⟨whole, hsome, hwhole, hform⟩ := hcs
  have hdigits : ∀ l : List Char, (∀ c ∈ l, isDecimalDigit c = true) →
      ∀ d ∈ l.map plain, d.isDigit = true := by
    intro l hl d hd
    obtain ⟨c, hc, rfl⟩ := List.mem_map.mp hd
    exact isDigit_plain (hl c hc)
  have hsome' : whole.map plain ≠ [] := by simpa using hsome
  obtain ⟨fraction, hfraction, hchars⟩ : ∃ fraction, (∀ c ∈ fraction, c.isDigit = true) ∧
      (cs.map plain = whole.map plain ∨ cs.map plain = whole.map plain ++ '.' :: fraction) := by
    rcases hform with rfl | ⟨fraction, hfraction, rfl⟩
    · exact ⟨[], by simp, .inl rfl⟩
    · exact ⟨fraction.map plain, hdigits _ hfraction, .inr (by simp [plain_point])⟩
  have hplain : ∀ d ∈ cs.map plain, IsPlain d := by
    intro d hd
    rcases hchars with hchars | hchars
    · rw [hchars] at hd
      exact .inl (hdigits _ hwhole d hd)
    · rw [hchars, List.mem_append, List.mem_cons] at hd
      rcases hd with hd | rfl | hd
      · exact .inl (hdigits _ hwhole d hd)
      · exact .inr rfl
      · exact .inl (hfraction d hd)
  have hnumeral : numeralChars (String.ofList cs) = cs.map plain := by
    rw [numeralChars, String.toList_ofList]
    exact trimBy_of_none fun d hd => (hplain d hd).not_blank
  have hread : readNumber? (String.ofList cs) = readDecimal? false (cs.map plain) := by
    rw [hfirst] at hnumeral hplain ⊢
    exact readNumber?_eq hnumeral (isDigit_plain hc) hplain
  obtain ⟨hshort, hlong⟩ := readDecimal?_digits (hdigits _ hwhole) hsome' hfraction
  rcases hchars with hchars | hchars
  · rw [hread, hchars, hshort]
    exact ⟨_, rfl, isAmount_ofDecimal ..⟩
  · rw [hread, hchars, hlong]
    exact ⟨_, rfl, isAmount_ofDecimal ..⟩

end Text

end RequestBreakdown
