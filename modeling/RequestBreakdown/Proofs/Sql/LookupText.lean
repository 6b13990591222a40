import RequestBreakdown.Proofs.Sql.Filling
import RequestBreakdown.Sql.Query

/-!
# The text of a look-up

The statement of a look-up, written out: the values that are looked up stand as
literals in one list, and nothing else does.
-/

namespace RequestBreakdown

namespace Template

/-- Each marker of the template with the text behind it. -/
def missingMarkers : List (String × String) := [
  ("DIM_EXPR", " AS dim,\n    "),
  ("AGGREGATIONS", "\nFROM "),
  ("SOURCE", " "),
  ("SAMPLE_CLAUSE", "\nWHERE "),
  ("WHERE", "\n  AND "),
  ("SEARCH_COLUMN", " IN ("),
  ("VALUES", ")\nGROUP BY dim\n")]

theorem spans_missing : spans (parse Fragment.missing.toList) =
    ("SELECT\n    ".toList,
      missingMarkers.map fun marker => (marker.1.toList, marker.2.toList)) := by
  have hlines : Fragment.missing.toList = _ :=
    toList_ofLines [_, _, _, _, _, _, _]
  rw [hlines]
  decide +kernel

theorem fillOrKeep_missing (dimension aggregations source clause condition column
      values : String) :
    fillOrKeep Fragment.missing [
        ("DIM_EXPR", dimension), ("AGGREGATIONS", aggregations), ("SOURCE", source),
        ("SAMPLE_CLAUSE", clause), ("WHERE", condition), ("SEARCH_COLUMN", column),
        ("VALUES", values)] =
      "SELECT\n    " ++ dimension ++ " AS dim,\n    " ++ aggregations ++ "\nFROM " ++
        source ++ " " ++ clause ++ "\nWHERE " ++ condition ++ "\n  AND " ++ column ++
        " IN (" ++ values ++ ")\nGROUP BY dim\n" := by
  rw [fillOrKeep_of_spans _ _ spans_missing (by simp [missingMarkers, List.lookup_cons])]
  simp [missingMarkers, List.lookup_cons, String.append_assoc]

end Template

namespace Query

/-- The statement that looks up the rows with some literals in a column. -/
def lookupText (dimension searchColumn : String) (literals : List String)
    (aggregations : List Aggregation) (stage : SamplingStage) (condition : String) :
    String :=
  "SELECT\n    " ++ dimension ++ " AS dim,\n    " ++
    Aggregation.selectList aggregations ++ "\nFROM " ++ stage.sourceText ++ " " ++
    stage.clause ++ "\nWHERE " ++ condition ++ "\n  AND " ++ searchColumn ++ " IN (" ++
    ", ".intercalate literals ++ ")\nGROUP BY dim\n"

theorem lookup_eq {values : List Value} (hsome : values ≠ [])
    (dimension searchColumn : String) (aggregations : List Aggregation)
    (stage : SamplingStage) (condition : String) :
    lookup dimension searchColumn values aggregations stage condition =
      .ok (lookupText dimension searchColumn (values.map Literal.ofValue) aggregations
        stage condition) := by
  unfold lookup
  rw [if_neg (by simpa using hsome), Template.fillOrKeep_missing]
  rfl

end Query

end RequestBreakdown
