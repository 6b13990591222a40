import RequestBreakdown.Proofs.Sql.Filling
import RequestBreakdown.Sql.Query

/-!
# The text of a query for the largest groups

The statement for the first groups of a grouped query, written out: the groups are put
into an order and limited before the row of totals is joined to them, and the totals are
those of all groups.
-/

namespace RequestBreakdown

namespace Template

/-- Each marker of the template with the text behind it. -/
def topTotalsMarkers : List (String × String) := [
  ("GROUPED_QUERY", "\n),\ntop_rows AS (\n    SELECT *, ROW_NUMBER() OVER (ORDER BY "),
  ("ORDER_BY", ") AS row_rank\n    FROM grouped\n    ORDER BY "),
  ("ORDER_BY", "\n    LIMIT "),
  ("LIMIT", "\n)\nSELECT "),
  ("COLUMNS",
    ", FALSE AS is_total, row_rank FROM top_rows\nUNION ALL\nSELECT NULL AS dim, "),
  ("TOTALS",
    ", TRUE AS is_total, 0 AS row_rank FROM grouped\nORDER BY is_total, row_rank\n")]

theorem spans_topTotals : spans (parse Fragment.topTotals.toList) =
    ("WITH grouped AS (\n".toList,
      topTotalsMarkers.map fun marker => (marker.1.toList, marker.2.toList)) := by
  have hlines : Fragment.topTotals.toList = _ :=
    toList_ofLines [_, _, _, _, _, _, _, _, _, _, _, _, _]
  rw [hlines]
  decide +kernel

end Template

namespace Query

/-- The statement for the first groups of a grouped query in some order, with the totals
of all groups. -/
def topText (groupedQuery : String) (outputs : List Aggregation) (orderBy : String)
    (limit : Int) : String :=
  "WITH grouped AS (\n" ++ groupedQuery ++
    "\n),\ntop_rows AS (\n    SELECT *, ROW_NUMBER() OVER (ORDER BY " ++ orderBy ++
    ") AS row_rank\n    FROM grouped\n    ORDER BY " ++ orderBy ++ "\n    LIMIT " ++
    toString limit ++ "\n)\nSELECT " ++ ", ".intercalate ("dim" :: outputs.map (·.name)) ++
    ", FALSE AS is_total, row_rank FROM top_rows\nUNION ALL\nSELECT NULL AS dim, " ++
    ", ".intercalate (outputs.map fun a => a.rollup ++ "(" ++ a.name ++ ") AS " ++ a.name) ++
    ", TRUE AS is_total, 0 AS row_rank FROM grouped\nORDER BY is_total, row_rank\n"

theorem topWithTotals_eq (groupedQuery : String) (outputs : List Aggregation)
    (orderBy : String) (limit : Int) :
    topWithTotals groupedQuery outputs orderBy limit =
      topText groupedQuery outputs orderBy limit := by
  unfold topWithTotals topText
  generalize toString limit = number
  rw [Template.fillOrKeep_of_spans _ _ Template.spans_topTotals
    (by simp [Template.topTotalsMarkers, List.lookup_cons])]
  simp [Template.topTotalsMarkers, List.lookup_cons, String.append_assoc]

/-- The grouped query of ranges: the values of the raw column are grouped by range. -/
def bucketedGroups (bucketExpression rawColumn : String) (aggregations : List Aggregation)
    (stage : SamplingStage) (condition : String) : String :=
  Template.fillOrKeep Fragment.bucketedGrouped [
    ("BUCKET_EXPR", bucketExpression),
    ("OUTER_AGGREGATIONS", Aggregation.selectList
      (aggregations.map fun a => { a with expression := "SUM(" ++ a.name ++ ")" })),
    ("RAW_COLUMN", rawColumn),
    ("AGGREGATIONS", Aggregation.selectList aggregations),
    ("SOURCE", stage.sourceText),
    ("SAMPLE_CLAUSE", stage.clause),
    ("WHERE", condition)]

theorem bucketed_eq (bucketExpression rawColumn : String)
    (aggregations : List Aggregation) (stage : SamplingStage) (condition : String)
    (limit : Int) (orderBy : Option String) :
    bucketed bucketExpression rawColumn aggregations stage condition limit orderBy =
      topText (bucketedGroups bucketExpression rawColumn aggregations stage condition)
        (aggregations ++ [⟨"min_val", "min_val", "MIN"⟩]) (orElseText orderBy "min_val")
        limit :=
  topWithTotals_eq ..

end Query

end RequestBreakdown
