import RequestBreakdown.Backend.Database
import RequestBreakdown.LogColumn
import RequestBreakdown.Sql.Literal
import RequestBreakdown.Storage.Basic
import RequestBreakdown.Text.LetterCase

/-!
# The source of the request log

The database that holds the request log, opened when it is first needed, and the
log files of a directory that the table is loaded from.
-/

namespace RequestBreakdown

inductive LogFormat where
  | csv
  | parquet
  deriving DecidableEq, Repr

namespace LogFormat

def all : List LogFormat := [.csv, .parquet]

def name : LogFormat → String
  | .csv => "csv"
  | .parquet => "parquet"

def ofName? (name : Value) : Option LogFormat := all.find? fun f => Value.text f.name == name

def fileEnding (f : LogFormat) : String := "." ++ f.name

def reader : LogFormat → String
  | .csv => "read_csv_auto"
  | .parquet => "read_parquet"

def holds (f : LogFormat) (file : String) : Bool :=
  f.fileEnding.toList.isSuffixOf file.toList

end LogFormat

structure LogSource where
  /-- The directory with the log files. -/
  directory : Option Path := none
  /-- The file that holds the database. -/
  database : Value := ":memory:"
  table : Value := "requests"
  /-- How many threads the database is told to use, unless it is null. -/
  threads : Value := .null
  storage : Storage := {}
  isConnected : Bool := false
  db : Database := {}
  deriving DecidableEq, Repr

abbrev SourceM := ExceptT Fault (StateM LogSource)

namespace LogSource

/-- A source whose directory must exist if it has one. -/
def inDirectory (source : LogSource) (directory : Value) : Except Fault LogSource := do
  match directory.present? with
  | none => return { source with directory := none }
  | some (.text text) =>
    let path := Path.read text
    match source.storage.contains path with
    | .ok true => return { source with directory := some path }
    | .ok false => throw (.input (.missingDataDirectory text))
    | .error fault => throw (.unreadable fault path.text)
  | some _ => throw (.operand .unsuitable)

def tableText (source : LogSource) : String := source.table.display

/-- An outcome that does not depend on the source. -/
def ofOutcome {α : Type} (outcome : Except Fault α) : SourceM α := MonadExcept.ofExcept outcome

def withDatabase {α : Type} (computation : DatabaseM α) : SourceM α := fun source =>
  let (outcome, db) := computation source.db
  (outcome, { source with db })

/-- The database is opened if it is not open, and told how many threads to use. -/
def connect : SourceM Unit := do
  let source ← get
  unless source.isConnected do
    let opened := source.db.note (.connected source.database.display)
    set { source with isConnected := true, db := opened }
    match source.threads with
    | .null => return ()
    | n => discard (withDatabase (.execute ("SET threads TO " ++ n.display)))

def close : SourceM Unit := do
  let source ← get
  if source.isConnected then
    set { source with isConnected := false, db := source.db.note .closed }

def execute (sql : String) : SourceM StatementAnswer := do
  connect
  withDatabase (.execute sql)

/-- The table of requests is made; one that exists is kept or replaced. -/
def createTable (replaceExisting : Bool) : SourceM Unit := do
  let columns := ",\n    ".intercalate (logSchema.map fun (name, type) => name ++ " " ++ type)
  let verb := if replaceExisting then "CREATE OR REPLACE TABLE" else "CREATE TABLE IF NOT EXISTS"
  connect
  let table := (← get).tableText
  discard (execute (verb ++ " " ++ table ++ " (\n    " ++ columns ++ "\n)"))

/-- The log files of a format, in order; whatever has the name of one counts as one. -/
def filesOf (source : LogSource) (format : LogFormat) : List String :=
  match source.directory with
  | none => []
  | some directory =>
    let files := (source.storage.list directory).filter format.holds
    (files.mergeSort fun a b => decide (a ≤ b)).map fun file => (directory.child file).text

/-- The log files of a named format; without a directory no name is wrong. -/
def filesOfName (source : LogSource) (name : Value) : Except Fault (List String) := do
  if source.directory.isNone then return []
  let name ← name.asName
  match LogFormat.ofName? name with
  | some format => return source.filesOf format
  | none => throw (.unknownFormat name.display)

/-- The files of a format in a directory, as statements name them. -/
def readerCall (directory : Path) (format : LogFormat) : String :=
  format.reader ++ "(" ++ Literal.quote (directory.child ("*" ++ format.fileEnding)).text ++
    ", union_by_name=true)"

/-- The name of a column in a record that describes it. -/
def describedName (record : List Value) : Except Fault String :=
  match record with
  | [] => .error .indexOutOfRange
  | .text name :: _ => .ok name
  | other :: _ => .error (.absent (.part other.kindName "lower"))

/-- The columns of the table that the files have, each with its name in the files. -/
def presentColumns (described : List String) : List (String × String) :=
  logSchema.filterMap fun (name, _) =>
    (described.reverse.find? fun d => Text.lower d == name).map fun d => (name, d)

def insertStatement (table files : String) (columns : List (String × String)) : String :=
  "INSERT INTO " ++ table ++ " (" ++ ", ".intercalate (columns.map (·.1)) ++ ") SELECT " ++
    ", ".intercalate (columns.map fun (name, inFile) => inFile ++ " AS " ++ name) ++
    " FROM " ++ files

/-- The files of one format are loaded; columns that the table does not have are
left out. -/
def loadFormat (directory : Path) (format : LogFormat) : SourceM Unit := do
  let source ← get
  if (source.filesOf format).isEmpty then return ()
  let files := readerCall directory format
  let description ← execute ("DESCRIBE SELECT * FROM " ++ files)
  let described ← description.records.mapM fun record => ofOutcome (describedName record)
  let columns := presentColumns described
  unless columns.isEmpty do
    discard (execute (insertStatement source.tableText files columns))

/-- The number of rows of a table; of the source's own when none is named. -/
def rowCount (table : Value) : SourceM Value := do
  connect
  let name := table.orElse (← get).table
  let answer ← execute ("SELECT COUNT(*) FROM " ++ name.display)
  match answer.records with
  | [] => throw (.operand .noCount)
  | [] :: _ => throw .indexOutOfRange
  | (count :: _) :: _ => return count

/-- The table is made anew from all log files of the directory. -/
def load : SourceM Value := do
  match (← get).directory with
  | none => throw (.input .noDataDirectory)
  | some directory =>
    createTable true
    LogFormat.all.forM (loadFormat directory)
    rowCount .null

/-- Rows are added to the table; a value that counts as absent adds none. -/
def insertRows (rows : Value) : SourceM Unit := do
  if rows.isPresent then
    connect
    let names := logSchema.map (·.1)
    let sql := "INSERT INTO " ++ (← get).tableText ++ " (" ++ ", ".intercalate names ++
      ") VALUES (" ++ ", ".intercalate (names.map fun _ => "?") ++ ")"
    let rows ← ofOutcome (Row.listOf rows)
    withDatabase (.executeBatch sql (rows.map fun row => names.map row.get))

/-- The first and the last timestamp of the table, when both are known. -/
def timeRange : SourceM (Option (Value × Value)) := do
  connect
  let answer ← execute ("SELECT MIN(timestamp), MAX(timestamp) FROM " ++ (← get).tableText ++
    " WHERE timestamp IS NOT NULL")
  match answer.records with
  | [] | [] :: _ => return none
  | [first] :: _ => if first.isPresent then throw .indexOutOfRange else return none
  | (first :: last :: _) :: _ =>
    return if first.isPresent && last.isPresent then some (first, last) else none

end LogSource

end RequestBreakdown
