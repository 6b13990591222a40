import Mathlib.Data.List.Infix

/-!
# Patterns

In a pattern a percent sign stands for any text and an underscore for any one character;
every other character stands for itself.
-/

namespace RequestBreakdown.Like

def fits : List Char → List Char → Bool
  | [], text => text.isEmpty
  | p :: rest, text =>
    if p = '%' then text.tails.any fun later => fits rest later
    else text.head?.any (fun c => p = '_' || p = c) && fits rest text.tail

/-- Whether the character stands for itself. -/
def IsPlain (p : Char) : Prop := p ≠ '%' ∧ p ≠ '_'

instance (p : Char) : Decidable (IsPlain p) := inferInstanceAs (Decidable (_ ∧ _))

variable {p : Char} {pattern rest text : List Char}

theorem fits_nil : fits [] text = true ↔ text = [] := by
  rw [fits, List.isEmpty_iff]

/-- A percent sign stands for any text in front of the remaining text. -/
theorem fits_percent :
    fits ('%' :: rest) text = true ↔
      ∃ front later, text = front ++ later ∧ fits rest later = true := by
  rw [fits, if_pos rfl, List.any_eq_true]
  constructor
  · rintro ⟨later, hlater, hfits⟩
    obtain ⟨front, hfront⟩ := (List.mem_tails _ _).mp hlater
    exact ⟨front, later, hfront.symm, hfits⟩
  · rintro ⟨front, later, rfl, hfits⟩
    exact ⟨later, (List.mem_tails _ _).mpr (List.suffix_append front later), hfits⟩

/-- Any other character stands for one, which is itself unless it is an underscore. -/
theorem fits_cons (hp : p ≠ '%') :
    fits (p :: rest) text = true ↔
      ∃ c later, text = c :: later ∧ (p = '_' ∨ p = c) ∧ fits rest later = true := by
  rw [fits, if_neg hp]
  cases text with
  | nil => simp
  | cons c later => simp

/-- A text fits one pattern behind another where it is a text that fits the one and
then a text that fits the other. -/
theorem fits_append :
    fits (pattern ++ rest) text = true ↔
      ∃ front later, text = front ++ later ∧ fits pattern front = true ∧
        fits rest later = true := by
  induction pattern generalizing text with
  | nil => simp [fits_nil]
  | cons p pattern ih =>
      by_cases hp : p = '%'
      · subst hp
        rw [List.cons_append, fits_percent]
        constructor
        · rintro ⟨any, later, rfl, hfits⟩
          obtain ⟨front, last, rfl, hfront, hlast⟩ := ih.mp hfits
          exact ⟨any ++ front, last, (List.append_assoc ..).symm,
            fits_percent.mpr ⟨any, front, rfl, hfront⟩, hlast⟩
        · rintro ⟨front, last, rfl, hfront, hlast⟩
          obtain ⟨any, front, rfl, hfits⟩ := fits_percent.mp hfront
          exact ⟨any, front ++ last, List.append_assoc .., ih.mpr ⟨front, last, rfl, hfits, hlast⟩⟩
      · rw [List.cons_append, fits_cons hp]
        constructor
        · rintro ⟨c, later, rfl, hc, hfits⟩
          obtain ⟨front, last, rfl, hfront, hlast⟩ := ih.mp hfits
          exact ⟨c :: front, last, rfl, (fits_cons hp).mpr ⟨c, front, rfl, hc, hfront⟩, hlast⟩
        · rintro ⟨front, last, rfl, hfront, hlast⟩
          obtain ⟨c, front, rfl, hc, hfits⟩ := (fits_cons hp).mp hfront
          exact ⟨c, front ++ last, rfl, hc, ih.mpr ⟨front, last, rfl, hfits, hlast⟩⟩

theorem fits_of_plain (hplain : ∀ p ∈ pattern, IsPlain p) :
    fits pattern text = true ↔ text = pattern := by
  induction pattern generalizing text with
  | nil => exact fits_nil
  | cons p rest ih =>
      obtain ⟨⟨hpercent, hunderscore⟩, hrest⟩ := List.forall_mem_cons.mp hplain
      rw [fits_cons hpercent]
      constructor
      · rintro ⟨c, later, rfl, hc, hfits⟩
        rw [← hc.resolve_left hunderscore, (ih hrest).mp hfits]
      · rintro rfl
        exact ⟨p, rest, rfl, .inr rfl, (ih hrest).mpr rfl⟩

/-! ## Stars as percent signs -/

/-- A character of a pattern in which a star stands for any text. -/
def ofStar (c : Char) : Char := if c = '*' then '%' else c

theorem isPlain_ofStar {c : Char} :
    IsPlain (ofStar c) ↔ c ≠ '%' ∧ c ≠ '_' ∧ c ≠ '*' := by
  unfold IsPlain ofStar
  split_ifs with hstar
  · subst hstar
    decide
  · simp [hstar]

theorem map_ofStar_of_plain (hplain : ∀ c ∈ text, IsPlain (ofStar c)) :
    text.map ofStar = text := by
  have hsame : ∀ c ∈ text, ofStar c = c := fun c hc =>
    if_neg (isPlain_ofStar.mp (hplain c hc)).2.2
  rw [List.map_congr_left hsame, List.map_id']

/-- A character fits the pattern of another one where it is the same, or where the
other does not stand for itself. -/
theorem fits_ofStar {c d : Char} (hc : c = d ∨ ¬ IsPlain (ofStar c)) :
    fits [ofStar c] [d] = true := by
  by_cases hpercent : ofStar c = '%'
  · rw [hpercent, fits_percent]
    exact ⟨[d], [], by simp, rfl⟩
  · have hunderscore : ofStar c = '_' ∨ ofStar c = d := by
      rcases hc with rfl | hwild
      · right
        refine if_neg ?_
        rintro rfl
        exact hpercent rfl
      · left
        by_contra hnot
        exact hwild ⟨hpercent, hnot⟩
    exact (fits_cons hpercent).mpr ⟨d, [], rfl, hunderscore, rfl⟩

/-- A text fits the pattern that is made of it. -/
theorem fits_map_ofStar (text : List Char) : fits (text.map ofStar) text = true := by
  induction text with
  | nil => rfl
  | cons c rest ih =>
      show fits ([ofStar c] ++ rest.map ofStar) ([c] ++ rest) = true
      exact fits_append.mpr ⟨[c], rest, rfl, fits_ofStar (.inl rfl), ih⟩

/-- With a character that does not stand for itself, another text fits the pattern: one
that has another character in its place. -/
theorem exists_fits_map_ofStar {c : Char} (hc : c ∈ text) (hwild : ¬ IsPlain (ofStar c))
    {d : Char} (hd : d ≠ c) :
    ∃ other, other ≠ text ∧ (∀ e ∈ other, e ∈ text ∨ e = d) ∧
      fits (text.map ofStar) other = true := by
  obtain ⟨front, later, rfl⟩ := List.append_of_mem hc
  refine ⟨front ++ d :: later, ?_, ?_, ?_⟩
  · simpa using hd
  · intro e he
    simp only [List.mem_append, List.mem_cons] at he ⊢
    tauto
  · have hlater : fits ([ofStar c] ++ later.map ofStar) ([d] ++ later) = true :=
      fits_append.mpr ⟨[d], later, rfl, fits_ofStar (.inr hwild), fits_map_ofStar later⟩
    rw [List.map_append]
    exact fits_append.mpr ⟨front, d :: later, rfl, fits_map_ofStar front, hlater⟩

end RequestBreakdown.Like
