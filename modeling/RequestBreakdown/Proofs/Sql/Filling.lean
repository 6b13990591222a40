import RequestBreakdown.Proofs.Sql.Parallel
import RequestBreakdown.Sql.Fragment

/-!
# Filled templates

A template is fixed text with markers in it, so the filled template is the
fixed text with values in it: nothing in a value is read as a marker, and
nothing around a marker is changed.  Filling the markers of a template with
parallel texts therefore gives parallel texts.
-/

namespace RequestBreakdown

namespace Template

/-- The text before the first marker, and each marker with the text behind it. -/
def spans : List Piece → List Char × List (List Char × List Char)
  | [] => ([], [])
  | .char c :: rest => (c :: (spans rest).1, (spans rest).2)
  | .marker name :: rest => ([], (name, (spans rest).1) :: (spans rest).2)

def markerNames (cs : List Char) : List String :=
  (spans (parse cs)).2.map fun span => String.ofList span.1

/-- Each marker with the text behind it, the marker replaced. -/
def fillSpans (value : String → List Char)
    (spans : List (List Char × List Char)) : List Char :=
  spans.flatMap fun span => value (String.ofList span.1) ++ span.2

theorem fillPieces_eq {values : Values} (value : String → List Char)
    (pieces : List Piece)
    (hvalues : ∀ span ∈ (spans pieces).2,
      values.lookup (String.ofList span.1) =
        some (String.ofList (value (String.ofList span.1)))) :
    fillPieces values pieces =
      .ok ((spans pieces).1 ++ fillSpans value (spans pieces).2) := by
  induction pieces with
  | nil => rfl
  | cons piece rest ih =>
      cases piece with
      | char c =>
          have hrest := ih hvalues
          simp only [fillPieces, Piece.value?, hrest]
          rfl
      | marker name =>
          have hname := hvalues (name, (spans rest).1) List.mem_cons_self
          have hrest := ih fun span hspan =>
            hvalues span (List.mem_cons_of_mem _ hspan)
          simp only at hname
          simp only [fillPieces, Piece.value?, hname, hrest, spans, fillSpans,
            String.toList_ofList, List.flatMap_cons, List.nil_append,
            List.append_assoc]
          rfl

theorem toList_fillOrKeep {template : String} {values : Values}
    {value : String → List Char}
    (hvalues : ∀ name ∈ markerNames template.toList,
      values.lookup name = some (String.ofList (value name))) :
    (fillOrKeep template values).toList =
      (spans (parse template.toList)).1 ++
        fillSpans value (spans (parse template.toList)).2 := by
  have hpieces := fillPieces_eq value (parse template.toList)
    fun span hspan => hvalues _ (List.mem_map.mpr ⟨span, hspan, rfl⟩)
  simp [fillOrKeep, fill, hpieces, Except.map]

/-- The filled template, written out. -/
theorem fillOrKeep_of_spans {template : String} {values : Values} (front : String)
    (markers : List (String × String))
    (hspans : spans (parse template.toList) =
      (front.toList, markers.map fun marker => (marker.1.toList, marker.2.toList)))
    (hvalues : ∀ marker ∈ markers, (values.lookup marker.1).isSome) :
    fillOrKeep template values =
      front ++ String.join (markers.map fun marker =>
        (values.lookup marker.1).getD "" ++ marker.2) := by
  let value (name : String) : List Char := ((values.lookup name).getD "").toList
  have hnames : ∀ name ∈ markerNames template.toList,
      values.lookup name = some (String.ofList (value name)) := by
    intro name hname
    rw [markerNames, hspans, List.map_map] at hname
    obtain ⟨marker, hmarker, rfl⟩ := List.mem_map.mp hname
    obtain ⟨text, htext⟩ := Option.isSome_iff_exists.mp (hvalues marker hmarker)
    simp [value, htext]
  apply String.toList_inj.mp
  rw [toList_fillOrKeep hnames, hspans, String.toList_append, String.toList_join,
    List.flatMap_map, fillSpans, List.flatMap_map]
  simp only [String.ofList_toList, value, String.toList_append]

/-- No marker of the text touches another, and what stands between them leaves
no literal open. -/
def WellSpaced (cs : List Char) : Prop :=
  Lexeme.Bare (spans (parse cs)).1 ∧
    ∀ span ∈ (spans (parse cs)).2, Lexeme.Bare span.2

instance (cs : List Char) : Decidable (WellSpaced cs) :=
  inferInstanceAs (Decidable (_ ∧ _))

theorem toList_ofLines (lines : List (List Char)) :
    (Fragment.ofLines (lines.map String.ofList)).toList =
      lines.flatMap (· ++ ['\n']) := by
  induction lines with
  | nil => rfl
  | cons line rest ih =>
      simp only [Fragment.ofLines, String.toList_join] at ih ⊢
      simpa using ih

theorem wellSpaced_ofLines (lines : List (List Char))
    (hlines : WellSpaced (lines.flatMap (· ++ ['\n']))) :
    WellSpaced (Fragment.ofLines (lines.map String.ofList)).toList := by
  rwa [toList_ofLines]

theorem markerNames_ofLines (lines : List (List Char)) {names : List String}
    (hlines : markerNames (lines.flatMap (· ++ ['\n'])) = names) :
    markerNames (Fragment.ofLines (lines.map String.ofList)).toList = names := by
  rwa [toList_ofLines]

theorem wellSpaced_grouped : WellSpaced Fragment.grouped.toList :=
  wellSpaced_ofLines [_, _, _, _, _, _] (by decide +kernel)

theorem wellSpaced_bucketedGrouped :
    WellSpaced Fragment.bucketedGrouped.toList :=
  wellSpaced_ofLines [_, _, _, _, _, _, _, _, _, _, _, _, _]
    (by decide +kernel)

theorem wellSpaced_topTotals : WellSpaced Fragment.topTotals.toList :=
  wellSpaced_ofLines [_, _, _, _, _, _, _, _, _, _, _, _, _]
    (by decide +kernel)

theorem wellSpaced_approximateTop :
    WellSpaced Fragment.approximateTop.toList :=
  wellSpaced_ofLines [_, _, _, _, _, _, _, _, _, _, _, _, _, _, _, _,
    _, _, _, _, _, _, _, _] (by decide +kernel)

theorem markerNames_grouped : markerNames Fragment.grouped.toList =
    ["DIM_EXPR", "AGGREGATIONS", "SOURCE", "SAMPLE_CLAUSE", "WHERE"] :=
  markerNames_ofLines [_, _, _, _, _, _] (by decide +kernel)

theorem markerNames_bucketedGrouped :
    markerNames Fragment.bucketedGrouped.toList =
      ["BUCKET_EXPR", "OUTER_AGGREGATIONS", "RAW_COLUMN", "AGGREGATIONS",
        "SOURCE", "SAMPLE_CLAUSE", "WHERE"] :=
  markerNames_ofLines [_, _, _, _, _, _, _, _, _, _, _, _, _]
    (by decide +kernel)

theorem markerNames_topTotals : markerNames Fragment.topTotals.toList =
    ["GROUPED_QUERY", "ORDER_BY", "ORDER_BY", "LIMIT", "COLUMNS", "TOTALS"] :=
  markerNames_ofLines [_, _, _, _, _, _, _, _, _, _, _, _, _]
    (by decide +kernel)

theorem markerNames_approximateTop :
    markerNames Fragment.approximateTop.toList =
      ["DIM_EXPR", "LIMIT", "SOURCE", "WHERE", "DIM_EXPR", "AGGREGATIONS",
        "SOURCE", "WHERE", "DIM_EXPR", "LIMIT", "AGGREGATIONS", "SOURCE",
        "TOTALS_WHERE"] :=
  markerNames_ofLines [_, _, _, _, _, _, _, _, _, _, _, _, _, _, _, _,
    _, _, _, _, _, _, _, _] (by decide +kernel)

/-! ## Parallel values in a template -/

open Lexeme

variable {u v : Nat → String}

theorem parallel_fillSpans (left right : String → List Char)
    (order : String → List Nat) (spans : List (List Char × List Char))
    (hspaced : ∀ span ∈ spans, Bare span.2)
    (hvalues : ∀ span ∈ spans,
      Parallel u v (order (String.ofList span.1))
        (left (String.ofList span.1)) (right (String.ofList span.1))) :
    Parallel u v (spans.flatMap fun span => order (String.ofList span.1))
      (fillSpans left spans) (fillSpans right spans) := by
  induction spans with
  | nil => exact .refl rfl
  | cons span rest ih =>
      have hvalue := hvalues span List.mem_cons_self
      have hbare := hspaced span List.mem_cons_self
      have hrest := ih
        (fun other hother => hspaced other (List.mem_cons_of_mem _ hother))
        (fun other hother => hvalues other (List.mem_cons_of_mem _ hother))
      simpa [fillSpans] using hvalue.append_bare hbare hrest

theorem parallel_fillOrKeep {template : String} (hspaced : WellSpaced template.toList)
    {values others : Values} (order : String → List Nat)
    (hvalues : ∀ name ∈ markerNames template.toList, ∃ a b,
      values.lookup name = some a ∧ others.lookup name = some b ∧
        Parallel u v (order name) a.toList b.toList) :
    Parallel u v ((markerNames template.toList).flatMap order)
      (fillOrKeep template values).toList
      (fillOrKeep template others).toList := by
  let left (name : String) : List Char :=
    ((values.lookup name).getD "").toList
  let right (name : String) : List Char :=
    ((others.lookup name).getD "").toList
  have hleft : ∀ name ∈ markerNames template.toList,
      values.lookup name = some (String.ofList (left name)) := by
    intro name hname
    obtain ⟨a, b, ha, -, -⟩ := hvalues name hname
    simp [left, ha]
  have hright : ∀ name ∈ markerNames template.toList,
      others.lookup name = some (String.ofList (right name)) := by
    intro name hname
    obtain ⟨a, b, -, hb, -⟩ := hvalues name hname
    simp [right, hb]
  rw [toList_fillOrKeep hleft, toList_fillOrKeep hright]
  have hspans := parallel_fillSpans (u := u) (v := v) left right order
    (spans (parse template.toList)).2 hspaced.2 (by
      intro span hspan
      obtain ⟨a, b, ha, hb, hab⟩ :=
        hvalues _ (List.mem_map.mpr ⟨span, hspan, rfl⟩)
      simpa [left, right, ha, hb] using hab)
  simpa [markerNames, List.flatMap_map] using hspans.cons_bare hspaced.1

/-- A name with its two parallel values. -/
structure Entry where
  name : String
  left : String
  right : String := left
  order : List Nat := []

def orderOf (entries : List Entry) (name : String) : List Nat :=
  ((entries.find? (·.name == name)).map (·.order)).getD []

private theorem lookup_entries (part : Entry → String) (entries : List Entry)
    (name : String) :
    (entries.map fun e => (e.name, part e)).lookup name =
      (entries.find? (·.name == name)).map part := by
  induction entries with
  | nil => rfl
  | cons e rest ih =>
      by_cases he : e.name = name
      · simp [he]
      · have hne : (name == e.name) = false :=
          beq_eq_false_iff_ne.mpr (Ne.symm he)
        simp [List.lookup_cons, he, hne, ih]

theorem parallel_entries {template : String} {names : List String}
    {order : List Nat} (hspaced : WellSpaced template.toList)
    (hmarkers : markerNames template.toList = names) (entries : List Entry)
    (hnames : ∀ name ∈ names, name ∈ entries.map (·.name))
    (hentries : ∀ e ∈ entries,
      Parallel u v e.order e.left.toList e.right.toList)
    (horder : names.flatMap (orderOf entries) = order) :
    Parallel u v order
      (fillOrKeep template (entries.map fun e => (e.name, e.left))).toList
      (fillOrKeep template (entries.map fun e => (e.name, e.right))).toList := by
  subst hmarkers horder
  apply parallel_fillOrKeep hspaced
  intro name hname
  obtain ⟨e, hmem, rfl⟩ := List.mem_map.mp (hnames name hname)
  have hfound : (entries.find? (·.name == e.name)).isSome := by
    rw [List.find?_isSome]
    exact ⟨e, hmem, by simp⟩
  obtain ⟨found, hfind⟩ := Option.isSome_iff_exists.mp hfound
  have hparallel := hentries found (List.mem_of_find?_eq_some hfind)
  refine ⟨found.left, found.right, ?_, ?_, ?_⟩
  · rw [lookup_entries, hfind]
    rfl
  · rw [lookup_entries, hfind]
    rfl
  · simpa [orderOf, hfind] using hparallel

end Template

end RequestBreakdown
