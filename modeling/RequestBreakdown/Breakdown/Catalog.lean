import RequestBreakdown.Breakdown.Basic
import RequestBreakdown.LogColumn

/-!
# The catalog of breakdowns

The breakdowns offered, how one is found by its column or its name, and which
columns a filter may test.
-/

namespace RequestBreakdown

def topNOptions : List Int := [5, 10, 20, 50, 100]

def defaultTopN : Int := 5

namespace Breakdown

def all : List Breakdown := [
  { id := "breakdown-status-range", title := "Status Range"
    dimension := .expression "CAST(status // 100 AS VARCHAR) || 'xx'"
    summaryPredicate := "status >= 500", summaryLabel := "errors" },
  { id := "breakdown-hosts", title := "Hosts", dimension := .expression "host"
    labelPrefixes := .list ["main--"] },
  { id := "breakdown-forwarded-hosts", title := "Forwarded Hosts"
    dimension := .expression "forwarded_host" },
  { id := "breakdown-content-types", title := "Content Types"
    dimension := .expression "content_type", modeToggle := "content_type_mode" },
  { id := "breakdown-content-type-families", title := "Content Type Families"
    dimension := .expression "split_part(content_type, '/', 1) || '/*'"
    filterColumn := "content_type", filterOperator := "LIKE"
    valueTransform := some .familyPattern },
  { id := "breakdown-status", title := "Status"
    dimension := .expression "CAST(status AS VARCHAR)" },
  { id := "breakdown-errors", title := "Errors", dimension := .expression "x_error"
    extraPredicate := "x_error != ''" },
  { id := "breakdown-cache", title := "Cache Status"
    dimension := .expression "upper(cache_status)"
    summaryPredicate := "upper(cache_status) = 'HIT'", summaryLabel := "hit rate" },
  { id := "breakdown-paths", title := "Paths", dimension := .expression "url"
    highCardinality := .flag true },
  { id := "breakdown-referers", title := "Referers", dimension := .expression "referer"
    highCardinality := .flag true, labelPrefixes := .list ["https://", "http://"] },
  { id := "breakdown-user-agents", title := "User Agents", dimension := .expression "user_agent"
    highCardinality := .flag true, labelPrefixes := .list ["Mozilla/5.0 "] },
  { id := "breakdown-ips", title := "Client IPs"
    dimension := .expression "CASE WHEN forwarded_for != '' THEN forwarded_for ELSE client_ip END"
    highCardinality := .flag true },
  { id := "breakdown-request-type", title := "Request Type"
    dimension := .expression "request_type", extraPredicate := "request_type != ''" },
  { id := "breakdown-backend-type", title := "Backend Type"
    dimension := .expression "backend_type", extraPredicate := "backend_type != ''" },
  { id := "breakdown-methods", title := "Methods", dimension := .expression "method" },
  { id := "breakdown-datacenters", title := "Datacenters", dimension := .expression "datacenter" },
  { id := "breakdown-asn", title := "ASN"
    dimension := .expression "CAST(asn AS VARCHAR) || ' ' || asn_name"
    filterColumn := "asn", valueTransform := some .networkNumber
    extraPredicate := "asn != 0" },
  { id := "breakdown-content-length", title := "Content Length"
    dimension := .ranges .bytes contentLengthColumn
    rawColumn := contentLengthColumn, orderBy := "min_val" },
  { id := "breakdown-time-elapsed", title := "Response Time"
    dimension := .ranges .durations timeElapsedColumn
    rawColumn := timeElapsedColumn, orderBy := "min_val"
    summaryPredicate := .text (timeElapsedColumn ++ " >= 1000"), summaryLabel := "slow" }]

/-- Whether the breakdown shows the column for one of the numbers of rows. -/
def showsColumn (b : Breakdown) (column : Value) (options : List Int) : Bool :=
  match b.dimension with
  | .expression value => value.same column
  | .ranges .. => options.any fun n => b.column n == column

def find? (column : Value) (breakdowns : List Breakdown := all) (options : List Int := topNOptions) :
    Option Breakdown :=
  breakdowns.find? (·.showsColumn column options)

/-- The numbers of rows as they are given, those offered where there are none. -/
def optionItems (options : Option Value) : Except Fault (List Value) :=
  (options.getD (.list (topNOptions.map .int))).items

/-- Whether the breakdown shows what is given as a column, for one of the numbers of rows that
are given.  They are looked at in order, and only where ranges depend on them. -/
def showsGiven (b : Breakdown) (column : Value) (options : Option Value) : Except Fault Bool :=
  match b.dimension with
  | .expression value => .ok (value.same column)
  | .ranges .. => do
    (← optionItems options).anyM fun n => return column == (← b.dimension.resolveFor n)

def findGiven (column : Value) (breakdowns : List Breakdown) (options : Option Value) :
    Except Fault (Option Breakdown) :=
  breakdowns.findM? fun b => b.showsGiven column options

def idPrefix : String := "breakdown-"

/-- The id without its first part, if there can be such a thing. -/
def shortId (b : Breakdown) : Except Fault Value :=
  match b.id with
  | .text id => .ok (.text (id.drop idPrefix.length).toString)
  | .list items => .ok (.list (items.drop idPrefix.length))
  | _ => .error (.operand .unsuitable)

def shortName (b : Breakdown) : String := (b.shortId.toOption.getD b.id).display

def ofName? (name : String) : Option Breakdown :=
  all.find? fun b => b.id == .text name || b.shortName == name

/-- The first breakdown with what is given as an id or a short name. -/
def ofNameGiven (name : Value) (breakdowns : List Breakdown) : Except Fault (Option Breakdown) :=
  breakdowns.findM? fun b => do
    let short ← b.shortId
    return b.id.same name || short.same name

def filterableColumns (b : Breakdown) (options : List Int) : List Value :=
  let shown := match b.dimension with
    | .expression value => [value]
    | .ranges .. => options.map b.column
  shown ++ b.filterColumn.present?.toList ++ b.rawColumn.present?.toList

def allowedColumns (breakdowns : List Breakdown := all) (options : List Int := topNOptions) :
    List String :=
  LogColumn.expressions ++ (breakdowns.flatMap (·.filterableColumns options)).filterMap Value.text?

/-- Every column that a filter may test, for breakdowns and numbers of rows as they are given.
Columns that are not texts have no place among the others. -/
def allowedGiven (breakdowns : List Breakdown) (options : Option Value) : Except Fault (List String) := do
  let columns ← breakdowns.mapM fun b => do
    let shown ← match b.dimension with
      | .expression _ => pure []
      | .ranges .. => (← optionItems options).mapM fun n => b.dimension.resolveFor n
    return b.filterableColumns [] ++ shown
  let texts ← columns.flatten.mapM fun column =>
    column.text?.elim (.error (.operand .unsuitable)) Except.ok
  return LogColumn.expressions ++ texts

/-- The columns that are given for filters to test, or all if there are none given.  What is no
text is no column. -/
def allowedAmong (given : Value) : Except Fault (List String) := do
  if given = .null then return allowedColumns
  return (← (← given.items).mapM Value.asName).filterMap Value.text?

/-- The column that a name means when it is not that of a breakdown: of a catalog field
or of a log field, else the name itself. -/
def columnOfField (name : String) : String :=
  match LogColumn.ofKey? name with
  | some column => column.expression
  | none =>
    match LogColumn.ofLogKey? name with
    | some column => column.expression
    | none => name

/-- The column that a name means for filters, when some number of rows is asked for. -/
def columnOfName (name : Value) (topN : Value) : Except Fault Value := do
  match ← name.asName with
  | .text name =>
    match ofName? name with
    | some b => b.dimension.resolveFor topN
    | none => return columnOfField name
  | other => throw (.absent (.part other.kindName "lower"))

end Breakdown

end RequestBreakdown
