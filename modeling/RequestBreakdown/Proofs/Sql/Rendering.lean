import RequestBreakdown.Proofs.Sql.Markers
import RequestBreakdown.Proofs.Sql.TopText

/-!
# Rendered fragments

A fragment is rendered in one pass: its text is divided at the markers, and each marker
gives way to the text of its value.  A query for the largest groups is a fragment that is
rendered into another one.  No part of the first is interpreted by the second, so that the
query holds each text that it is made of as it was given, at a place that is always the
same.
-/

namespace RequestBreakdown

namespace FragmentStore

variable {s : FragmentStore} {name : Value} {template : String} {front : List Char}
  {markers : List (List Char × List Char)}

theorem render_eq (hload : (s.load name).2 = .ok template)
    (hdivides : Template.Divides template.toList front markers)
    (fields : List (String × Value)) :
    (s.render name (.record fields)).2 =
      match Template.firstWithout (texts fields) markers with
      | some key => .error (.missingPlaceholder key name.display)
      | none => .ok (Template.filledText (texts fields) front markers) := by
  have hrender : (s.render name (.record fields)).2 = fill template name (.record fields) := by
    simp only [render, hload]
    rfl
  rw [hrender, fill, Template.fill_eq hdivides]
  cases Template.firstWithout (texts fields) markers <;> rfl

theorem lookup_texts (fields : List (String × Value)) (key : String) :
    (texts fields).lookup key = (fields.lookup key).map Value.display := by
  induction fields with
  | nil => rfl
  | cons field rest ih =>
      obtain ⟨other, value⟩ := field
      simp only [texts, List.map_cons, List.lookup_cons] at ih ⊢
      split
      · rfl
      · exact ih

/-- A fragment is filled with values for all of its markers. -/
theorem fill_eq_fillOrKeep {fields : List (String × Value)}
    (hvalues : ∀ key ∈ Template.markerNames template.toList,
      ((texts fields).lookup key).isSome) (name : Value) :
    fill template name (.record fields) = .ok (Template.fillOrKeep template (texts fields)) := by
  have hnone : Template.firstWithout (texts fields)
      (Template.spans (Template.parse template.toList)).2 = none :=
    Template.firstWithout_eq_none.mpr fun marker hmarker =>
      hvalues _ (List.mem_map_of_mem hmarker)
  rw [fill, Template.fillOrKeep, Template.fill_eq (Template.divides_parse template.toList), hnone]
  rfl

end FragmentStore

namespace Template

/-- Each marker of the template with the text behind it. -/
def groupedMarkers : List (String × String) := [
  ("DIM_EXPR", " AS dim,\n    "),
  ("AGGREGATIONS", "\nFROM "),
  ("SOURCE", " "),
  ("SAMPLE_CLAUSE", "\nWHERE "),
  ("WHERE", "\nGROUP BY dim\n")]

theorem spans_grouped : spans (parse Fragment.grouped.toList) =
    ("SELECT\n    ".toList,
      groupedMarkers.map fun marker => (marker.1.toList, marker.2.toList)) := by
  have hlines : Fragment.grouped.toList = _ := toList_ofLines [_, _, _, _, _, _]
  rw [hlines]
  decide +kernel

/-- Each marker of the template with the text behind it. -/
def bucketedMarkers : List (String × String) := [
  ("BUCKET_EXPR", " AS dim,\n    "),
  ("OUTER_AGGREGATIONS", ",\n    MIN(val) AS min_val\nFROM (\n    SELECT\n        "),
  ("RAW_COLUMN", " AS val,\n        "),
  ("AGGREGATIONS", "\n    FROM "),
  ("SOURCE", " "),
  ("SAMPLE_CLAUSE", "\n    WHERE "),
  ("WHERE", "\n    GROUP BY val\n) raw_values\nGROUP BY dim\n")]

theorem spans_bucketedGrouped : spans (parse Fragment.bucketedGrouped.toList) =
    ("SELECT\n    ".toList,
      bucketedMarkers.map fun marker => (marker.1.toList, marker.2.toList)) := by
  have hlines : Fragment.bucketedGrouped.toList = _ :=
    toList_ofLines [_, _, _, _, _, _, _, _, _, _, _, _, _]
  rw [hlines]
  decide +kernel

end Template

namespace Query

/-- The statement that groups by an expression. -/
def groupedText (dimension : String) (aggregations : List Aggregation)
    (stage : SamplingStage) (condition : String) : String :=
  "SELECT\n    " ++ dimension ++ " AS dim,\n    " ++
    ",\n    ".intercalate (aggregations.map fun a => a.expression ++ " AS " ++ a.name) ++
    "\nFROM " ++ stage.sourceText ++ " " ++ stage.clause ++ "\nWHERE " ++ condition ++
    "\nGROUP BY dim\n"

/-- The statement that groups the values of a column by range. -/
def rangesText (bucketExpression rawColumn : String) (aggregations : List Aggregation)
    (stage : SamplingStage) (condition : String) : String :=
  "SELECT\n    " ++ bucketExpression ++ " AS dim,\n    " ++
    ",\n    ".intercalate
      (aggregations.map fun a => "SUM(" ++ a.name ++ ")" ++ " AS " ++ a.name) ++
    ",\n    MIN(val) AS min_val\nFROM (\n    SELECT\n        " ++ rawColumn ++
    " AS val,\n        " ++
    ",\n    ".intercalate (aggregations.map fun a => a.expression ++ " AS " ++ a.name) ++
    "\n    FROM " ++ stage.sourceText ++ " " ++ stage.clause ++ "\n    WHERE " ++ condition ++
    "\n    GROUP BY val\n) raw_values\nGROUP BY dim\n"

def groupedFields (dimension : String) (aggregations : List Aggregation)
    (stage : SamplingStage) (condition : String) : List (String × Value) := [
  ("DIM_EXPR", .text dimension),
  ("AGGREGATIONS", .text (",\n    ".intercalate
    (aggregations.map fun a => a.expression ++ " AS " ++ a.name))),
  ("SOURCE", .text stage.sourceText),
  ("SAMPLE_CLAUSE", .text stage.clause),
  ("WHERE", .text condition)]

def rangesFields (bucketExpression rawColumn : String) (aggregations : List Aggregation)
    (stage : SamplingStage) (condition : String) : List (String × Value) := [
  ("BUCKET_EXPR", .text bucketExpression),
  ("OUTER_AGGREGATIONS", .text (",\n    ".intercalate
    (aggregations.map fun a => "SUM(" ++ a.name ++ ")" ++ " AS " ++ a.name))),
  ("RAW_COLUMN", .text rawColumn),
  ("AGGREGATIONS", .text (",\n    ".intercalate
    (aggregations.map fun a => a.expression ++ " AS " ++ a.name))),
  ("SOURCE", .text stage.sourceText),
  ("SAMPLE_CLAUSE", .text stage.clause),
  ("WHERE", .text condition)]

def topFields (groupedQuery : String) (outputs : List Aggregation) (orderBy : String)
    (limit : Int) : List (String × Value) := [
  ("GROUPED_QUERY", .text groupedQuery),
  ("ORDER_BY", .text orderBy),
  ("LIMIT", .int limit),
  ("COLUMNS", .text (", ".intercalate ("dim" :: outputs.map (·.name)))),
  ("TOTALS", .text (", ".intercalate
    (outputs.map fun a => a.rollup ++ "(" ++ a.name ++ ") AS " ++ a.name)))]

section Texts

variable (dimension : String) (aggregations : List Aggregation) (stage : SamplingStage)
  (condition : String)

theorem fillOrKeep_grouped :
    Template.fillOrKeep Fragment.grouped
        (FragmentStore.texts (groupedFields dimension aggregations stage condition)) =
      groupedText dimension aggregations stage condition := by
  unfold groupedText
  rw [Template.fillOrKeep_of_spans _ _ Template.spans_grouped
    (by simp [Template.groupedMarkers, FragmentStore.texts, groupedFields, List.lookup_cons])]
  simp [Template.groupedMarkers, FragmentStore.texts, groupedFields, List.lookup_cons,
    Value.display, String.append_assoc]

theorem fillOrKeep_ranges (rawColumn : String) :
    Template.fillOrKeep Fragment.bucketedGrouped (FragmentStore.texts
        (rangesFields dimension rawColumn aggregations stage condition)) =
      rangesText dimension rawColumn aggregations stage condition := by
  unfold rangesText
  rw [Template.fillOrKeep_of_spans _ _ Template.spans_bucketedGrouped
    (by simp [Template.bucketedMarkers, FragmentStore.texts, rangesFields, List.lookup_cons])]
  simp [Template.bucketedMarkers, FragmentStore.texts, rangesFields, List.lookup_cons,
    Value.display, String.append_assoc]

theorem fill_grouped (name : Value) :
    FragmentStore.fill Fragment.grouped name
        (.record (groupedFields dimension aggregations stage condition)) =
      .ok (groupedText dimension aggregations stage condition) := by
  rw [FragmentStore.fill_eq_fillOrKeep, fillOrKeep_grouped]
  rw [Template.markerNames_grouped]
  simp [FragmentStore.texts, groupedFields, List.lookup_cons]

theorem fill_ranges (rawColumn : String) (name : Value) :
    FragmentStore.fill Fragment.bucketedGrouped name
        (.record (rangesFields dimension rawColumn aggregations stage condition)) =
      .ok (rangesText dimension rawColumn aggregations stage condition) := by
  rw [FragmentStore.fill_eq_fillOrKeep, fillOrKeep_ranges]
  rw [Template.markerNames_bucketedGrouped]
  simp [FragmentStore.texts, rangesFields, List.lookup_cons]

theorem fill_top (groupedQuery : String) (outputs : List Aggregation) (orderBy : String)
    (limit : Int) (name : Value) :
    FragmentStore.fill Fragment.topTotals name
        (.record (topFields groupedQuery outputs orderBy limit)) =
      .ok (topText groupedQuery outputs orderBy limit) := by
  have htext : Template.fillOrKeep Fragment.topTotals
      (FragmentStore.texts (topFields groupedQuery outputs orderBy limit)) =
        topText groupedQuery outputs orderBy limit :=
    topWithTotals_eq groupedQuery outputs orderBy limit
  rw [FragmentStore.fill_eq_fillOrKeep, htext]
  rw [Template.markerNames_topTotals]
  simp [FragmentStore.texts, topFields, List.lookup_cons]

theorem breakdown_eq (limit : Int) (orderBy : Option String) :
    breakdown dimension aggregations stage condition limit orderBy =
      topText (groupedText dimension aggregations stage condition) aggregations
        (orElseText orderBy "cnt DESC, dim") limit := by
  rw [← fillOrKeep_grouped]
  exact topWithTotals_eq ..

theorem bucketedGroups_eq (rawColumn : String) :
    bucketedGroups dimension rawColumn aggregations stage condition =
      rangesText dimension rawColumn aggregations stage condition := by
  have houter : Aggregation.selectList (aggregations.map fun a =>
      { a with expression := "SUM(" ++ a.name ++ ")" }) = ",\n    ".intercalate
        (aggregations.map fun a => "SUM(" ++ a.name ++ ")" ++ " AS " ++ a.name) := by
    rw [Aggregation.selectList, List.map_map]
    rfl
  rw [bucketedGroups, houter]
  exact fillOrKeep_ranges ..

end Texts

end Query

namespace FragmentStore

/-- The text of a fragment is divided at its markers in one way.  Rendering fails with the
first of them that has no value, and where there is none it puts each value in the place
of its marker; with markers as values the text stays what it is.  So the queries for the
largest groups and for ranges, each a fragment rendered into another one, hold the texts
that they are made of as those were given. -/
theorem render_substitutes {s : FragmentStore} {name : Value} {template : String}
    (hload : (s.load name).2 = .ok template) (fields : List (String × Value)) :
    (∃ front markers, Template.Divides template.toList front markers ∧
      (∀ other others, Template.Divides template.toList other others →
        other = front ∧ others = markers) ∧
      (s.render name (.record fields)).2 =
        (match Template.firstWithout (texts fields) markers with
        | some key => .error (.missingPlaceholder key name.display)
        | none => .ok (Template.filledText (texts fields) front markers)) ∧
      ((∀ marker ∈ markers, fields.lookup (String.ofList marker.1) =
          some (.text (String.ofList (Template.markerText marker.1)))) →
        (s.render name (.record fields)).2 = .ok template)) ∧
    (∀ dimension aggregations stage condition limit orderBy fragment,
      let grouped := Query.groupedText dimension aggregations stage condition
      let order := (orderBy.filter (· != "")).getD "cnt DESC, dim"
      fill Fragment.grouped fragment
          (.record (Query.groupedFields dimension aggregations stage condition)) =
        .ok grouped ∧
      fill Fragment.topTotals fragment
          (.record (Query.topFields grouped aggregations order limit)) =
        .ok (Query.breakdown dimension aggregations stage condition limit orderBy) ∧
      Query.breakdown dimension aggregations stage condition limit orderBy =
        Query.topText grouped aggregations order limit) ∧
    (∀ expression rawColumn aggregations stage condition limit orderBy fragment,
      let ranges := Query.rangesText expression rawColumn aggregations stage condition
      let outputs := aggregations ++ [⟨"min_val", "min_val", "MIN"⟩]
      let order := (orderBy.filter (· != "")).getD "min_val"
      fill Fragment.bucketedGrouped fragment
          (.record (Query.rangesFields expression rawColumn aggregations stage condition)) =
        .ok ranges ∧
      fill Fragment.topTotals fragment
          (.record (Query.topFields ranges outputs order limit)) =
        .ok (Query.bucketed expression rawColumn aggregations stage condition limit orderBy) ∧
      Query.bucketed expression rawColumn aggregations stage condition limit orderBy =
        Query.topText ranges outputs order limit) := by
  refine ⟨?_, ?_, ?_⟩
  · have hdivides := Template.divides_parse template.toList
    have hrender := render_eq hload hdivides fields
    refine ⟨_, _, hdivides, ?_, hrender, ?_⟩
    · intro other others hother
      have hspans := hother.spans_parse
      exact ⟨(congrArg Prod.fst hspans).symm, (congrArg Prod.snd hspans).symm⟩
    · intro hself
      have htexts : ∀ marker ∈ (Template.spans (Template.parse template.toList)).2,
          (texts fields).lookup (String.ofList marker.1) =
            some (String.ofList (Template.markerText marker.1)) := by
        intro marker hmarker
        rw [lookup_texts, hself marker hmarker]
        rfl
      have hnone : Template.firstWithout (texts fields)
          (Template.spans (Template.parse template.toList)).2 = none := by
        rw [Template.firstWithout_eq_none]
        intro marker hmarker
        rw [htexts marker hmarker, Option.isSome_some]
      rw [hrender, hnone]
      exact congrArg Except.ok (Template.filledText_self hdivides htexts)
  · intro dimension aggregations stage condition limit orderBy fragment grouped order
    have htext := Query.breakdown_eq dimension aggregations stage condition limit orderBy
    refine ⟨Query.fill_grouped .., ?_, htext⟩
    rw [htext]
    exact Query.fill_top ..
  · intro expression rawColumn aggregations stage condition limit orderBy fragment ranges
      outputs order
    have htext : Query.bucketed expression rawColumn aggregations stage condition limit
        orderBy = Query.topText ranges outputs order limit := by
      rw [Query.bucketed_eq, Query.bucketedGroups_eq]
      rfl
    refine ⟨Query.fill_ranges .., ?_, htext⟩
    rw [htext]
    exact Query.fill_top ..

/-- A value that looks like a marker is put in as it is. -/
theorem render_substitutes_limit :
    let s : FragmentStore :=
      { directory := .read "", cache := [(.text "limit", "LIMIT #LIMIT##TOP#")] }
    (s.load (.text "limit")).2 = .ok "LIMIT #LIMIT##TOP#" ∧
      (s.render (.text "limit")
        (.record [("LIMIT", .text "#TOP#"), ("TOP", .int 5)])).2 = .ok "LIMIT #TOP#5" := by
  intro s
  have hload : (s.load (.text "limit")).2 = .ok "LIMIT #LIMIT##TOP#" := rfl
  refine ⟨hload, ?_⟩
  obtain ⟨⟨front, markers, hdivides, -, hrender, -⟩, -⟩ :=
    render_substitutes hload [("LIMIT", .text "#TOP#"), ("TOP", .int 5)]
  have hspans : Template.spans (Template.parse "LIMIT #LIMIT##TOP#".toList) =
      ("LIMIT ".toList, [("LIMIT".toList, []), ("TOP".toList, [])]) := by
    decide +kernel
  rw [hdivides.spans_parse, Prod.mk.injEq] at hspans
  rw [hrender, hspans.1, hspans.2]
  decide +kernel

end FragmentStore

end RequestBreakdown
