import RequestBreakdown.Console.StyledText
import RequestBreakdown.Console.TextTable
import RequestBreakdown.View.Table

/-!
# The console

Each table of a load is printed as it comes, and the views and errors shown last
are remembered by breakdown.  A table is printed as text, or as a styled table in
which a bar shows the classes of status.
-/

namespace RequestBreakdown

inductive ConsoleFormat where
  | text (layout : TableLayout)
  | styled
  /-- A format that is no name, and with which no table can be set. -/
  | void
  deriving DecidableEq, Repr

def ConsoleFormat.ofName (name : String) : ConsoleFormat :=
  if name = "rich" then .styled else .text (.ofName name)

/-- The format that a value names.  Values made of others are no names. -/
def ConsoleFormat.ofValue (value : Value) : ConsoleFormat :=
  match value.asName with
  | .ok name => .ofName name.display
  | .error _ => .void

inductive Printed where
  | text (s : String)
  | line (t : StyledText)
  | table (t : StyledTable)
  deriving DecidableEq, Repr

def Printed.plainText : Printed → String
  | .text s => s
  | .line _ | .table _ => ""

def Printed.plainTexts (printed : List Printed) : String := String.join (printed.map plainText)

structure Console where
  format : ConsoleFormat := .text .simple
  /-- The titles of breakdowns by id; one without a title is shown by its id. -/
  titles : Value := .null
  topN : Value := .int defaultTopN
  views : List (Value × BreakdownView) := []
  errors : List (Value × Value) := []
  deriving DecidableEq, Repr

/-- What was printed, and what went wrong on the way. -/
structure ConsoleStep where
  console : Console
  printed : List Printed := []
  fault : Option Fault := none
  deriving DecidableEq, Repr

namespace Console

/-- What is remembered under an id takes the place of what was before, else it comes last. -/
def put {α : Type} (entries : List (Value × α)) (id : Value) (value : α) : List (Value × α) :=
  if entries.any (·.1.same id) then
    entries.map fun entry => if entry.1.same id then (entry.1, value) else entry
  else entries ++ [(id, value)]

def title? (c : Console) (id : Value) : Except Fault (Option Value) := do
  let titles ← Row.ofValue (c.titles.orElse (.record []))
  return (← id.asName).text?.bind titles.get?

/-- The characters of the longest bar. -/
def barLength : Nat := 24

def speedMark : SpeedClass → String
  | .fast => "●"
  | .medium => "◐"
  | .slow => "○"

def speedStyle : SpeedClass → TextStyle
  | .fast => .green
  | .medium => .yellow
  | .slow => .red

def summaryText (ratio : Number) (label : Value) : Except Fault String := do
  return (← Number.integerText (← (ratio.times 100).round)) ++ "% " ++ label.display

def millisText (elapsed : Number) : Except Fault String := do
  return (← elapsed.toBinary64).placesText 0 ++ "ms"

/-- The line above a table: title, summary, sampling rate, time, and whether the
table is filtered. -/
def heading (v : BreakdownView) : Except Fault String := do
  let summary ← match v.summaryRatio with
    | .null => pure []
    | ratio => do pure [← summaryText (← ratio.asNumber) v.summaryLabel]
  let rate ← v.sampleRate.asNumber
  let sampling ←
    if rate.lt (.int 1) then do pure ["~sampled " ++ (← SampleRate.percentText rate) ++ "%"]
    else pure []
  let elapsed ← millisText v.elapsed
  let .text title := v.title | throw (.operand .unsuitable)
  return "  ".intercalate
    ([title] ++ summary ++ sampling ++ [elapsed] ++ if v.canClear then ["[filtered]"] else [])

def rowMark (r : RowView) : String :=
  match r.mark with
  | some .included => "+"
  | some .excluded => "-"
  | none => if r.isFilteredValue then "*" else ""

/-- The length of a bar: at least one character for a row that counts anything. -/
def barOf (r : RowView) : Except Fault Int := do
  if r.count = 0 then return 0
  let width := (r.barWidth.div Binary64.hundred).mul (Binary64.ofInt barLength)
  return max 1 (← (Number.real width).round)

def wholePercent (x : Binary64) : String := x.placesText 0 ++ "%"

/-- The characters of the longest bar that there is room for. -/
def mostCharacters : Int := twoTo 28

/-- A bar of one character.  Its length must fit into a signed word of 64 bits. -/
def repeated (c : Char) (n : Int) : Except Fault String :=
  if n ≤ mostCharacters then .ok (String.ofList (List.replicate n.toNat c))
  else .error (if n < twoTo 63 then .noRoom else .range .repetition)

def headers : List String := ["", "value", "count", "5xx", "4xx", ""]

def textRow (r : RowView) : Except Fault (List String) := do
  let bar ← repeated '#' (← barOf r)
  return [rowMark r, r.leading ++ r.label, ← abbreviated (.int r.count),
    wholePercent r.shares.serverErrors, wholePercent r.shares.clientErrors, bar]

def noData : String := "No data"

/-- The lines below the heading; without a layout only a view without rows has any. -/
def textBody (layout : Option TableLayout) (v : BreakdownView) : Except Fault String := do
  if v.isEmpty then return "  " ++ noData ++ "\n\n"
  let rows ← v.rows.mapM textRow
  match layout with
  | some layout => return (← TextTable.render layout headers rows) ++ "\n\n"
  | none => throw (.operand .unsuitable)

/-- The bar of a row: server errors, then client errors, then all else. -/
def styledBar (r : RowView) : Except Fault StyledText := do
  let width ← barOf r
  let part (share : Binary64) : Except Fault Int :=
    (Number.real (((Binary64.ofInt width).mul share).div Binary64.hundred)).round
  let serverErrors ← part r.shares.serverErrors
  let clientErrors ← part r.shares.clientErrors
  let bar := StyledText.of (← repeated '█' serverErrors) .red
  let bar := bar.append (← repeated '█' clientErrors) .yellow
  return bar.append (← repeated '█' (width - serverErrors - clientErrors)) .green

def styledRow (r : RowView) : Except Fault StyledRow := do
  let group := (StyledText.of r.leading .dim).append r.label (if r.isOther then .italic else .none)
  let bar ← styledBar r
  return { mark := rowMark r, group, count := ← abbreviated (.int r.count), bar := some bar }

def emptyRow : StyledRow := { mark := "", group := .of noData .dim, count := "", bar := none }

def styledTable (v : BreakdownView) : Except Fault StyledTable := do
  let title := (StyledText.of (speedMark v.speed ++ " ") (speedStyle v.speed)).append (← heading v) .bold
  let rows ← v.rows.mapM styledRow
  return { title, rows := (if v.isEmpty then [emptyRow] else []) ++ rows }

/-- A view is printed as text; a fault leaves printed what came before it. -/
def printText (layout : Option TableLayout) (v : BreakdownView) : List Printed × Option Fault :=
  match heading v with
  | .error fault => ([], some fault)
  | .ok line =>
    let first := Printed.text (speedMark v.speed ++ " " ++ line ++ "\n")
    match textBody layout v with
    | .ok body => ([first, .text body], none)
    | .error fault => ([first], some fault)

def printView (format : ConsoleFormat) (v : BreakdownView) : List Printed × Option Fault :=
  match format with
  | .styled =>
    match styledTable v with
    | .ok table => ([.table table], none)
    | .error fault => ([], some fault)
  | .text layout => printText (some layout) v
  | .void => printText none v

/-- The view of a table takes the place of what was shown of its breakdown. -/
def showTable (c : Console) (t : BreakdownTable) : ConsoleStep :=
  let view := do
    let title ← c.title? t.breakdownId
    BreakdownView.ofTable (title.getD .null) (← c.topN.asNumber) t
  match view with
  | .error fault => { console := c, fault := some fault }
  | .ok v =>
    let (printed, fault) := printView c.format v
    let console := { c with
      views := put c.views t.breakdownId v
      errors := c.errors.filter fun entry => !entry.1.same t.breakdownId }
    { console, printed, fault }

def printLine (c : Console) (line : String) : Printed :=
  match c.format with
  | .styled => .line (.of line .boldRed)
  | .text _ | .void => .text (line ++ "\n")

/-- An error is remembered, and shown under the title of its breakdown. -/
def showFailure (c : Console) (breakdownId text : Value) : ConsoleStep :=
  match breakdownId.asName with
  | .error fault => { console := c, fault := some fault }
  | .ok id =>
    let console := { c with errors := put c.errors id text }
    match c.title? id with
    | .error fault => { console, fault := some fault }
    | .ok title =>
      let line := (title.getD id).display ++ ": ERROR " ++ text.display
      { console, printed := [c.printLine line] }

def display (c : Console) : Rendering → ConsoleStep
  | .table t => c.showTable t
  | .failure breakdownId text => c.showFailure breakdownId text

end Console

end RequestBreakdown
