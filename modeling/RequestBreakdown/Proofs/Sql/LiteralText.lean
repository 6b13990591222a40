import RequestBreakdown.Proofs.Sql.PlainText

/-!
# What a literal says

A value is written bare when it is a number, and between quotes otherwise.
Numbers of both kinds have no quote in them, so the text of the value is read
back from its literal in the same way for all kinds.
-/

namespace RequestBreakdown

/-! ## Numbers without quotes -/

theorem NoQuote.take {s : String} (hs : NoQuote s) (n : Nat) :
    NoQuote (s.take n).toString := by
  intro hmem
  apply hs
  have htake : (s.take n).toString.toList = s.toList.take n :=
    String.toList_copy_take
  rw [htake] at hmem
  exact List.mem_of_mem_take hmem

theorem NoQuote.drop {s : String} (hs : NoQuote s) (n : Nat) :
    NoQuote (s.drop n).toString := by
  intro hmem
  apply hs
  have hdrop : (s.drop n).toString.toList = s.toList.drop n :=
    String.toList_copy_drop
  rw [hdrop] at hmem
  exact List.mem_of_mem_drop hmem

namespace DecimalLayout

theorem noQuote_zeros (n : Nat) : NoQuote (zeros n) := by
  intro hmem
  simp [zeros] at hmem

theorem noQuote_exponentText (e : Int) : NoQuote (exponentText e) := by
  unfold exponentText
  refine noQuote_append.mpr ⟨?_, ?_⟩
  · split <;> decide
  · split
    · exact noQuote_append.mpr ⟨by decide, noQuote_nat _⟩
    · exact noQuote_nat _

theorem noQuote_write {layout : DecimalLayout}
    (hsuffix : NoQuote layout.wholeSuffix) (d : Decimal) :
    NoQuote (layout.write d) := by
  have hdigits := noQuote_nat d.digits
  unfold write
  dsimp only
  split
  · have hfraction : ∀ fraction : String.Slice,
        NoQuote fraction.toString →
          NoQuote (if fraction.isEmpty then "" else "." ++ fraction.toString) := by
      intro fraction hfraction
      split
      · decide
      · exact noQuote_append.mpr ⟨by decide, hfraction⟩
    exact noQuote_append.mpr ⟨noQuote_append.mpr
      ⟨hdigits.take 1, hfraction _ (hdigits.drop 1)⟩, noQuote_exponentText _⟩
  · split
    · exact noQuote_append.mpr
        ⟨noQuote_append.mpr ⟨by decide, noQuote_zeros _⟩, hdigits⟩
    · split
      · exact noQuote_append.mpr
          ⟨noQuote_append.mpr ⟨hdigits, noQuote_zeros _⟩, hsuffix⟩
      · exact noQuote_append.mpr
          ⟨noQuote_append.mpr ⟨hdigits.take _, by decide⟩, hdigits.drop _⟩

end DecimalLayout

theorem Binary64.noQuote_text (x : Binary64) : NoQuote x.text := by
  have hsign : ∀ negative, NoQuote (signText negative) := by decide
  cases x with
  | nan => decide
  | infinite negative => exact noQuote_append.mpr ⟨hsign negative, by decide⟩
  | finite negative mantissa exponent =>
      refine noQuote_append.mpr ⟨hsign negative, ?_⟩
      split
      · decide
      · exact DecimalLayout.noQuote_write (by decide) _

/-! ## Literals -/

namespace Literal

/-- The text between the quotes of a literal, or all of it if it has none. -/
def said (literal : String) : String :=
  match Lexeme.read literal.toList with
  | [.literal text] => String.ofList text
  | _ => literal

theorem said_of_noQuote {s : String} (hs : NoQuote s) : said s = s := by
  unfold said
  rw [Lexeme.read_of_noQuote hs]
  split
  · rename_i text htext
    cases hlist : s.toList <;> simp [hlist] at htext
  · rfl

theorem said_quote (s : String) : said (quote s) = s := by
  simp [said, Lexeme.read_quote]

/-- A literal says the text of its value. -/
theorem said_ofValue (value : Value) : said (ofValue value) = value.display := by
  cases value with
  | int i =>
      simpa [ofValue, Value.display, Value.quoted] using
        said_of_noQuote (noQuote_int i)
  | real x =>
      simpa [ofValue, Value.display, Value.quoted] using
        said_of_noQuote x.noQuote_text
  | _ => exact said_quote _

end Literal

end RequestBreakdown
