import RequestBreakdown.Console.TableCell

/-!
# Tables as text

Rows of texts set in lines of equal width, with rules between them.  A cell with
line breaks takes up several lines, and a row that is marked as a separator is no
row but a rule.
-/

namespace RequestBreakdown

/-- A line between the rows of a table. -/
structure TableRule where
  edge : String
  fill : Char
  junction : String
  deriving DecidableEq, Repr

structure TableLayout where
  /-- Blanks on both sides of a cell. -/
  padding : Nat
  edge : String
  divider : String
  above : Option TableRule := none
  belowHeader : Option TableRule := none
  between : Option TableRule := none
  below : Option TableRule := none
  /-- Whether a cell with line breaks is set in several lines. -/
  breaksLines : Bool := true
  deriving DecidableEq, Repr

namespace TableLayout

def plain : TableLayout := { padding := 0, edge := "", divider := "  " }

def simple : TableLayout := { plain with belowHeader := some ⟨"", '-', "  "⟩ }

def grid : TableLayout :=
  let rule : TableRule := ⟨"+", '-', "+"⟩
  { padding := 1, edge := "|", divider := "|"
    above := some rule, belowHeader := some { rule with fill := '=' }
    between := some rule, below := some rule }

/-- The layout of a name.  A name that is not known means the simple one, and then
line breaks stay in their cells. -/
def ofName : String → TableLayout
  | "plain" => plain
  | "simple" => simple
  | "grid" => grid
  | _ => { simple with breaksLines := false }

end TableLayout

namespace TextTable

/-! ### Lines -/

def trimEnd (s : String) : String := String.ofList (Text.trimEndBy Text.isBlank s.toList)

def ruleText (layout : TableLayout) (widths : List Nat) (rule : TableRule) : String :=
  let bars := widths.map fun w => String.ofList (List.replicate (w + 2 * layout.padding) rule.fill)
  trimEnd (rule.edge ++ rule.junction.intercalate bars ++ rule.edge)

/-- A line of cells that have their blanks already. -/
def bareLine (layout : TableLayout) (cells : List String) : String :=
  trimEnd (layout.edge ++ layout.divider.intercalate cells ++ layout.edge)

def lineText (layout : TableLayout) (cells : List String) : String :=
  let space := blanks layout.padding
  bareLine layout (cells.map fun c => space ++ c ++ space)

/-- The lines of one row: as many as its tallest cell has, blank below a lower one. -/
def rowLines (layout : TableLayout) (cells : List (Nat × List String)) : List String :=
  let height := (cells.map (·.2.length)).foldl max 0
  (List.range height).map fun i =>
    lineText layout (cells.map fun (width, lines) => lines.getD i (blanks width))

/-! ### Separators -/

def separatorMark : String := "\x01"

/-- A row is a separator when the mark stands alone in one of its first two cells. -/
def isSeparator (row : List String) : Bool := (row.take 2).any fun cell => Text.trim cell == separatorMark

/-- A row of a table that is ready to be set: its lines, or none for a separator. -/
abbrev SetRow := Option (List String)

/-- The lines of the rows, each row in its place among the separators. -/
def placeRows (rows : List (List String)) (lines : List (List String)) : List SetRow :=
  match rows, lines with
  | [], _ => []
  | row :: rows, lines =>
    if isSeparator row then none :: placeRows rows lines
    else some (lines.headD []) :: placeRows rows lines.tail

/-- The rule that a separator stands for, if the layout has any. -/
def separatorRule (layout : TableLayout) : Option TableRule :=
  layout.between <|> layout.belowHeader <|> layout.below <|> layout.above

/-- Rows with a rule below each but the last.  There are no more of these than rows
that are no separators, and the last row is set whatever it is. -/
def ruledRows (layout : TableLayout) (multiline : Bool) (rule : String) (rows : List SetRow) :
    Except Fault (List String) :=
  let count := (rows.filterMap id).length
  let last : List String :=
    match rows.getLast? with
    | some none => [if multiline then lineText layout [separatorMark] else bareLine layout [separatorMark]]
    | some (some lines) => lines
    | none => []
  if count = 0 && !rows.isEmpty then .error .indexOutOfRange
  else .ok ((rows.dropLast.take count).flatMap (fun row => row.getD [] ++ [rule]) ++ last)

/-! ### Tables -/

def render (layout : TableLayout) (headers : List String) (rows : List (List String)) :
    Except Fault String := do
  let data := rows.filter (!isSeparator ·)
  let cells := headers ++ data.flatten
  let m : Measure := {
    multiline := layout.breaksLines && cells.any (·.any isLineBreak)
    escapes := Escape.occursIn ("\t".intercalate cells) }
  let count := (data.map List.length).foldl max headers.length
  let columns ← (List.range count).mapM fun i => column m headers[i]? (data.map (·.getD i ""))
  let widths := columns.map (·.width)
  let rule (r : Option TableRule) : List String := (r.map (ruleText layout widths)).toList
  let body := placeRows rows ((List.range data.length).map fun i =>
    rowLines layout (columns.map fun c => (c.width, c.cells.getD i [])))
  let head :=
    if headers.isEmpty then []
    else lineText layout (columns.map (·.header)) :: rule layout.belowHeader
  let separator := ((separatorRule layout).map (ruleText layout widths)).getD ""
  let set ← match layout.between with
    | some r => ruledRows layout m.multiline (ruleText layout widths r) body
    | none => pure (body.flatMap (·.getD [separator]))
  return "\n".intercalate (rule layout.above ++ head ++ set ++ rule layout.below)

end TextTable

end RequestBreakdown
