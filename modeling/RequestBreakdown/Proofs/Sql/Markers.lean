import Mathlib.Data.List.TakeWhile
import RequestBreakdown.Proofs.Sql.Filling

/-!
# The markers of a template

A text is divided at its markers from left to right: no marker begins before the first
one taken, and the rest is divided behind it in the same way.  Every text is divided in
one way only, which is how it is read, and filling the template puts a value in the place
of each marker of the division and changes nothing else.
-/

namespace RequestBreakdown

namespace Template

def IsMarkerName (name : List Char) : Prop :=
  name ≠ [] ∧ ∀ c ∈ name, c = '_' ∨ ('A' ≤ c ∧ c ≤ 'Z')

def markerText (name : List Char) : List Char := '#' :: name ++ ['#']

/-- Some marker stands in the text from this position on. -/
def MarkerAt (cs : List Char) (position : Nat) : Prop :=
  ∃ name after, IsMarkerName name ∧ cs.drop position = markerText name ++ after

/-- A text with the part in front of its first marker, and each marker with the part
behind it.  Of markers that overlap, the one that begins first is taken. -/
inductive Divides : List Char → List Char → List (List Char × List Char) → Prop
  | last {text : List Char} (hnone : ∀ i, ¬ MarkerAt text i) : Divides text text []
  | marker {front name rest behind : List Char} {markers : List (List Char × List Char)}
      (hname : IsMarkerName name)
      (hfirst : ∀ i < front.length, ¬ MarkerAt (front ++ (markerText name ++ rest)) i)
      (hrest : Divides rest behind markers) :
      Divides (front ++ (markerText name ++ rest)) front ((name, behind) :: markers)

variable {cs name front rest behind after : List Char} {c : Char}
  {markers : List (List Char × List Char)}

theorem isMarkerChar_iff : isMarkerChar c = true ↔ c = '_' ∨ ('A' ≤ c ∧ c ≤ 'Z') := by
  simp [isMarkerChar]

theorem takeMarker?_eq_some :
    takeMarker? cs = some (name, after) ↔ IsMarkerName name ∧ cs = name ++ '#' :: after := by
  constructor
  · intro htake
    have hsplit := List.takeWhile_append_dropWhile (p := isMarkerChar) (l := cs)
    unfold takeMarker? at htake
    split at htake
    · rename_i rest hdrop
      split at htake
      · cases htake
      · rename_i hsome
        simp only [Option.some.injEq, Prod.mk.injEq] at htake
        obtain ⟨rfl, rfl⟩ := htake
        rw [hdrop] at hsplit
        refine ⟨⟨by simpa using hsome, ?_⟩, hsplit.symm⟩
        intro c hc
        exact isMarkerChar_iff.mp (List.mem_takeWhile_imp hc)
    · cases htake
  · rintro ⟨⟨hsome, hchars⟩, rfl⟩
    have hall : ∀ c ∈ name, isMarkerChar c = true := fun c hc =>
      isMarkerChar_iff.mpr (hchars c hc)
    have hsign : ¬ isMarkerChar '#' = true := by decide
    have hdrop : (name ++ '#' :: after).dropWhile isMarkerChar = '#' :: after := by
      rw [List.dropWhile_append_of_pos hall, List.dropWhile_cons_of_neg hsign]
    have htake : (name ++ '#' :: after).takeWhile isMarkerChar = name := by
      rw [List.takeWhile_append_of_pos hall, List.takeWhile_cons_of_neg hsign, List.append_nil]
    unfold takeMarker?
    rw [hdrop, htake]
    simp [hsome]

theorem markerText_append (name rest : List Char) :
    markerText name ++ rest = '#' :: (name ++ '#' :: rest) := by
  simp [markerText]

theorem markerAt_zero :
    MarkerAt (c :: rest) 0 ↔ c = '#' ∧ ∃ name after, takeMarker? rest = some (name, after) := by
  simp only [MarkerAt, List.drop_zero, markerText_append, List.cons.injEq, takeMarker?_eq_some]
  constructor
  · rintro ⟨name, after, hname, rfl, hrest⟩
    exact ⟨rfl, name, after, hname, hrest⟩
  · rintro ⟨rfl, name, after, hname, hrest⟩
    exact ⟨name, after, hname, rfl, hrest⟩

theorem not_markerAt_nil (i : Nat) : ¬ MarkerAt [] i := by
  rintro ⟨name, after, -, hdrop⟩
  rw [List.drop_nil, markerText_append] at hdrop
  cases hdrop

/-! ## Reading divides -/

theorem Divides.cons (hc : ¬ MarkerAt (c :: rest) 0) (hrest : Divides rest front markers) :
    Divides (c :: rest) (c :: front) markers := by
  cases hrest with
  | last hnone =>
      apply Divides.last
      intro i
      cases i with
      | zero => exact hc
      | succ i => exact hnone i
  | @marker _ name rest behind markers hname hfirst hrest =>
      have hall : ∀ i < (c :: front).length,
          ¬ MarkerAt (c :: front ++ (markerText name ++ rest)) i := by
        intro i hi
        cases i with
        | zero => exact hc
        | succ i => exact hfirst i (Nat.lt_of_succ_lt_succ hi)
      exact .marker hname hall hrest

theorem divides_parse (cs : List Char) : Divides cs (spans (parse cs)).1 (spans (parse cs)).2 := by
  fun_induction parse cs with
  | case1 => exact .last not_markerAt_nil
  | case2 rest name after htake hlength ih =>
      obtain ⟨hname, rfl⟩ := takeMarker?_eq_some.mp htake
      rw [← markerText_append]
      have hfirst : ∀ i < ([] : List Char).length,
          ¬ MarkerAt ([] ++ (markerText name ++ after)) i := by simp
      exact .marker hname hfirst ih
  | case3 rest htake ih =>
      refine ih.cons ?_
      rw [markerAt_zero, htake]
      simp
  | case4 c rest hc ih =>
      refine ih.cons ?_
      rw [markerAt_zero]
      exact fun h => hc h.1

/-- Characters at which no marker begins are read one by one. -/
theorem parse_append (front : List Char)
    (hfirst : ∀ i < front.length, ¬ MarkerAt (front ++ rest) i) :
    parse (front ++ rest) = front.map .char ++ parse rest := by
  induction front with
  | nil => rfl
  | cons c front ih =>
      have hc := hfirst 0 (by simp)
      have hlater := ih fun i hi => hfirst (i + 1) (Nat.succ_lt_succ hi)
      rw [List.cons_append, markerAt_zero] at hc
      rw [List.cons_append, parse.eq_def]
      simp only [List.map_cons, List.cons_append, hlater]
      split
      · rename_i hsign
        split
        · rename_i name after htake
          exact absurd ⟨hsign, name, after, htake⟩ hc
        · rfl
      · rfl

theorem parse_marker (hname : IsMarkerName name) :
    parse (markerText name ++ rest) = .marker name :: parse rest := by
  have htake : takeMarker? (name ++ '#' :: rest) = some (name, rest) :=
    takeMarker?_eq_some.mpr ⟨hname, rfl⟩
  rw [markerText_append, parse.eq_def]
  simp only [if_pos]
  split
  · rename_i hsome
    rw [htake] at hsome
    cases hsome
    rfl
  · rename_i hnone
    rw [htake] at hnone
    cases hnone

theorem spans_append (front : List Char) (pieces : List Piece) :
    spans (front.map .char ++ pieces) = (front ++ (spans pieces).1, (spans pieces).2) := by
  induction front with
  | nil => rfl
  | cons c front ih => simp only [List.map_cons, List.cons_append, spans, ih]

theorem Divides.spans_parse (hdivides : Divides cs front markers) :
    spans (parse cs) = (front, markers) := by
  induction hdivides with
  | @last text hnone =>
      have hfirst : ∀ i < text.length, ¬ MarkerAt (text ++ []) i := by
        intro i _
        rw [List.append_nil]
        exact hnone i
      have hread := parse_append text hfirst
      rw [List.append_nil] at hread
      rw [hread, spans_append]
      simp [parse, spans]
  | marker hname hfirst hrest ih =>
      rw [parse_append _ hfirst, parse_marker hname, spans_append]
      simp only [spans, ih, List.append_nil]

/-- The text of a division, put together again. -/
theorem Divides.text_eq (hdivides : Divides cs front markers) :
    front ++ markers.flatMap (fun marker => markerText marker.1 ++ marker.2) = cs := by
  induction hdivides with
  | last hnone => simp
  | marker hname hfirst hrest ih =>
      rw [List.flatMap_cons, List.append_assoc]
      simp only [ih]

/-! ## Filling a division -/

/-- The first marker that has no value, in the order of the text. -/
def firstWithout (values : Values) (markers : List (List Char × List Char)) : Option String :=
  (markers.map fun marker => String.ofList marker.1).find? fun name =>
    (values.lookup name).isNone

/-- The text of a division with values in the place of its markers. -/
def filledText (values : Values) (front : List Char)
    (markers : List (List Char × List Char)) : String :=
  String.ofList front ++ String.join (markers.map fun marker =>
    (values.lookup (String.ofList marker.1)).getD "" ++ String.ofList marker.2)

theorem firstWithout_eq_none {values : Values} :
    firstWithout values markers = none ↔
      ∀ marker ∈ markers, (values.lookup (String.ofList marker.1)).isSome := by
  simp [firstWithout, Option.isSome_iff_ne_none]

theorem fillPieces_of_missing {values : Values} {pieces : List Piece} {key : String}
    (hkey : firstWithout values (spans pieces).2 = some key) :
    fillPieces values pieces = .error key := by
  induction pieces with
  | nil => cases hkey
  | cons piece pieces ih =>
      cases piece with
      | char c =>
          rw [fillPieces, ih hkey]
          rfl
      | marker name =>
          simp only [firstWithout, spans, List.map_cons, List.find?_cons] at hkey
          rw [fillPieces, Piece.value?]
          cases hvalue : values.lookup (String.ofList name) with
          | none =>
              simp only [hvalue, Option.isNone_none, Option.some.injEq] at hkey
              rw [hkey]
              rfl
          | some value =>
              simp only [hvalue, Option.isNone_some] at hkey
              rw [ih hkey]
              rfl

theorem fill_eq {template : String} {values : Values}
    (hdivides : Divides template.toList front markers) :
    fill template values =
      match firstWithout values markers with
      | some key => .error key
      | none => .ok (filledText values front markers) := by
  have hspans := hdivides.spans_parse
  unfold fill
  cases hmissing : firstWithout values markers with
  | some key =>
      have hpieces : fillPieces values (parse template.toList) = .error key :=
        fillPieces_of_missing (by rw [hspans, hmissing])
      rw [hpieces]
      rfl
  | none =>
      let value (name : String) : List Char := ((values.lookup name).getD "").toList
      have hvalues : ∀ span ∈ (spans (parse template.toList)).2,
          values.lookup (String.ofList span.1) =
            some (String.ofList (value (String.ofList span.1))) := by
        rw [hspans]
        intro marker hmarker
        obtain ⟨text, htext⟩ := Option.isSome_iff_exists.mp
          (firstWithout_eq_none.mp hmissing marker hmarker)
        simp [value, htext]
      rw [fillPieces_eq value (parse template.toList) hvalues, hspans]
      apply congrArg Except.ok
      apply String.toList_inj.mp
      simp [value, filledText, fillSpans, String.toList_join, List.flatMap_map]

/-- A template whose markers stand for themselves is left as it is. -/
theorem filledText_self {template : String} {values : Values}
    (hdivides : Divides template.toList front markers)
    (hself : ∀ marker ∈ markers, values.lookup (String.ofList marker.1) =
      some (String.ofList (markerText marker.1))) :
    filledText values front markers = template := by
  have hmarkers : ∀ marker ∈ markers, (values.lookup (String.ofList marker.1)).getD "" ++
      String.ofList marker.2 = String.ofList (markerText marker.1 ++ marker.2) := by
    intro marker hmarker
    rw [hself marker hmarker, Option.getD_some, String.ofList_append]
  apply String.toList_inj.mp
  rw [filledText, List.map_congr_left hmarkers, ← hdivides.text_eq]
  simp [String.toList_join, List.flatMap_map]

end Template

end RequestBreakdown
