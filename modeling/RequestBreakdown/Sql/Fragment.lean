import RequestBreakdown.Sql.Template
import RequestBreakdown.Storage.Basic
import RequestBreakdown.Value.Text
import RequestBreakdown.Value.Use

/-!
# Fragments

The templates that statements are made of, and a store that reads named
templates from a directory and keeps what it has read.
-/

namespace RequestBreakdown

namespace Fragment

/-- Each line with a line feed after it. -/
def ofLines (lines : List String) : String := String.join (lines.map (· ++ "\n"))

def grouped : String := ofLines [
  "SELECT",
  "    #DIM_EXPR# AS dim,",
  "    #AGGREGATIONS#",
  "FROM #SOURCE# #SAMPLE_CLAUSE#",
  "WHERE #WHERE#",
  "GROUP BY dim"]

def bucketedGrouped : String := ofLines [
  "SELECT",
  "    #BUCKET_EXPR# AS dim,",
  "    #OUTER_AGGREGATIONS#,",
  "    MIN(val) AS min_val",
  "FROM (",
  "    SELECT",
  "        #RAW_COLUMN# AS val,",
  "        #AGGREGATIONS#",
  "    FROM #SOURCE# #SAMPLE_CLAUSE#",
  "    WHERE #WHERE#",
  "    GROUP BY val",
  ") raw_values",
  "GROUP BY dim"]

def topTotals : String := ofLines [
  "WITH grouped AS (",
  "#GROUPED_QUERY#",
  "),",
  "top_rows AS (",
  "    SELECT *, ROW_NUMBER() OVER (ORDER BY #ORDER_BY#) AS row_rank",
  "    FROM grouped",
  "    ORDER BY #ORDER_BY#",
  "    LIMIT #LIMIT#",
  ")",
  "SELECT #COLUMNS#, FALSE AS is_total, row_rank FROM top_rows",
  "UNION ALL",
  "SELECT NULL AS dim, #TOTALS#, TRUE AS is_total, 0 AS row_rank FROM grouped",
  "ORDER BY is_total, row_rank"]

def approximateTop : String := ofLines [
  "WITH candidates AS (",
  "    SELECT unnest(approx_top_k(#DIM_EXPR#, #LIMIT#)) AS dim",
  "    FROM #SOURCE#",
  "    WHERE #WHERE#",
  "),",
  "top_rows AS (",
  "    SELECT",
  "        #DIM_EXPR# AS dim,",
  "        #AGGREGATIONS#",
  "    FROM #SOURCE#",
  "    WHERE #WHERE#",
  "      AND #DIM_EXPR# IN (SELECT dim FROM candidates)",
  "    GROUP BY dim",
  "    ORDER BY cnt DESC, dim",
  "    LIMIT #LIMIT#",
  ")",
  "SELECT *, FALSE AS is_total FROM top_rows",
  "UNION ALL",
  "SELECT",
  "    '' AS dim,",
  "    #AGGREGATIONS#,",
  "    TRUE AS is_total",
  "FROM #SOURCE#",
  "WHERE #TOTALS_WHERE#"]

def missing : String := ofLines [
  "SELECT",
  "    #DIM_EXPR# AS dim,",
  "    #AGGREGATIONS#",
  "FROM #SOURCE# #SAMPLE_CLAUSE#",
  "WHERE #WHERE#",
  "  AND #SEARCH_COLUMN# IN (#VALUES#)",
  "GROUP BY dim"]

def all : List (String × String) := [
  ("breakdown_approx_top", approximateTop),
  ("breakdown_bucketed_grouped", bucketedGrouped),
  ("breakdown_grouped", grouped),
  ("breakdown_missing", missing),
  ("breakdown_top_totals", topTotals)]

def fileEnding : String := ".sql"

/-- All line ends become line feeds. -/
def unifyLineEnds : List Char → List Char
  | [] => []
  | '\r' :: '\n' :: rest => '\n' :: unifyLineEnds rest
  | '\r' :: rest => '\n' :: unifyLineEnds rest
  | c :: rest => c :: unifyLineEnds rest

end Fragment

/-- A directory of fragment files, and the fragments read so far. -/
structure FragmentStore where
  directory : Path
  storage : Storage := {}
  cache : List (Value × String) := []
  deriving DecidableEq, Repr

namespace FragmentStore

def ownDirectory : Path := .read "sql/fragments"

/-- The store of the library's own fragments. -/
def builtIn : FragmentStore :=
  { directory := ownDirectory
    storage := .ofFiles ownDirectory (Fragment.all.map fun (name, text) =>
      (name ++ Fragment.fileEnding, text)) }

/-- The store with another directory beside its own, which can be written to. -/
def withDirectory (s : FragmentStore) (directory : Path) : FragmentStore :=
  { s with storage := s.storage.withDirectory directory }

/-- A file is written; what was read from it before stays in the cache. -/
def write (s : FragmentStore) (file : Path) (text : String) : Except Fault FragmentStore :=
  if file.hasNul then .error (.input .nulInPath)
  else
    match s.storage.write file text with
    | .ok storage => .ok { s with storage }
    | .error fault => .error (.unreadable fault file.text)

/-- The file of a fragment; the name may lead out of the directory. -/
def fileOf (s : FragmentStore) (name : Value) : Path :=
  s.directory.join (.read (name.display ++ Fragment.fileEnding))

/-- The text of a name that has been read before. -/
def cached? (s : FragmentStore) (name : Value) : Option String :=
  (s.cache.find? (·.1.same name)).map (·.2)

def readFile (s : FragmentStore) (name : Value) : Except Fault String :=
  let file := s.fileOf name
  match s.storage.read file with
  | .ok (some content) => .ok (String.ofList (Fragment.unifyLineEnds content.toList))
  | .ok none => .error (.missingFragment file.text)
  | .error fault => .error (.unreadable fault file.text)

/-- The fragment of a name, which is read from its file the first time. -/
def load (s : FragmentStore) (name : Value) : FragmentStore × Except Fault String :=
  match name.asName with
  | .error fault => (s, .error fault)
  | .ok name =>
    match s.cached? name with
    | some text => (s, .ok text)
    | none =>
      match s.readFile name with
      | .ok text => ({ s with cache := s.cache ++ [(name, text)] }, .ok text)
      | .error fault => (s, .error fault)

def texts (fields : List (String × Value)) : Template.Values :=
  fields.map fun (key, value) => (key, value.display)

/-- The template with its markers filled.  Only a record has values for markers; other values
are looked into, and found to be of no use, when there is a marker. -/
def fill (template : String) (name values : Value) : Except Fault String :=
  match values with
  | .record fields =>
    (Template.fill template (texts fields)).mapError (.missingPlaceholder · name.display)
  | other =>
    (Template.fill template []).mapError fun key =>
      if other.lacks key then .missingPlaceholder key name.display else .operand .unsuitable

def render (s : FragmentStore) (name values : Value) : FragmentStore × Except Fault String :=
  let (s, loaded) := s.load name
  (s, loaded.bind (fill · name values))

def clearCache (s : FragmentStore) : FragmentStore := { s with cache := [] }

/-- A name comes before the first of the names in order that it is less than. -/
def insertName (name : Value) : List Value → Except Fault (List Value)
  | [] => .ok [name]
  | other :: rest => do
    if ← name.lt other then return name :: other :: rest
    return other :: (← insertName name rest)

/-- The names read so far, in order; names of several kinds have none. -/
def cachedNames (s : FragmentStore) : Except Fault (List Value) :=
  (s.cache.map (·.1)).foldlM (fun names name => insertName name names) []

end FragmentStore

end RequestBreakdown
