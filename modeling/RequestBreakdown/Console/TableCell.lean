import RequestBreakdown.Console.Escape
import RequestBreakdown.Text.Blank
import RequestBreakdown.Value.Use

/-!
# Cells of text tables

What the cells of a column read as, how numbers among them are written, and how
cells are brought to one width.  A column whose cells all read as numbers is set
flush right with its decimal points in line, any other flush left.
-/

namespace RequestBreakdown

namespace TextTable

/-! ### Kinds of columns -/

/-- What the cells of a column read as, from the special to the general. -/
inductive ColumnKind where
  | flag
  | integer
  | real
  | text
  deriving DecidableEq, Repr

namespace ColumnKind

def rank : ColumnKind → Nat
  | .flag => 0
  | .integer => 1
  | .real => 2
  | .text => 3

/-- The more general of two kinds. -/
def join (a b : ColumnKind) : ColumnKind := if a.rank < b.rank then b else a

def isNumeric : ColumnKind → Bool
  | .integer | .real => true
  | .flag | .text => false

end ColumnKind

/-- Groups of three digits, each led in by a comma, and perhaps a fraction. -/
def areThousands : List Char → Bool
  | [] => true
  | '.' :: fraction => fraction.all Char.isDigit
  | ',' :: a :: b :: c :: rest => [a, b, c].all Char.isDigit && areThousands rest
  | _ => false

/-- Whether the text is a number of up to three digits before its commas, a fraction
alone, or nothing; a line feed may follow. -/
def hasThousands (cell : String) : Bool :=
  match Text.dropLineFeed cell.toList with
  | [] => true
  | '.' :: fraction => !fraction.isEmpty && fraction.all Char.isDigit
  | cs =>
    let (_, digits) := Text.takeSign cs
    let first := digits.takeWhile Char.isDigit
    !first.isEmpty && first.length ≤ 3 && areThousands (digits.drop first.length)

def isInteger (cell : String) : Bool := (Text.readInt? cell).isSome

/-- Whether the text is a number; infinite only when it says so. -/
def isNumber (cell : String) : Bool :=
  match Text.readNumber? cell with
  | some x => x.isFinite || ["inf", "-inf", "nan"].contains (cell.map Char.toLower)
  | none => false

/-- What a cell reads as, going by what is shown of it; an empty one reads as anything. -/
def kindOf? (cell : String) : Option ColumnKind :=
  let cell := Escape.visible cell
  if cell = "" then none
  else if cell = "True" || cell = "False" then some .flag
  else if isInteger cell || hasThousands cell && !cell.toList.contains '.' then some .integer
  else if isNumber cell || hasThousands cell then some .real
  else some .text

def columnKind (cells : List String) : ColumnKind :=
  (cells.filterMap kindOf?).foldl ColumnKind.join .flag

/-! ### Measuring and writing -/

/-- What has to be heeded when cells are measured. -/
structure Measure where
  /-- Whether a cell with line breaks is set in several lines. -/
  multiline : Bool
  /-- Whether escape sequences are not counted. -/
  escapes : Bool
  deriving DecidableEq, Repr

def isLineBreak (c : Char) : Bool := c = '\n' || c = '\r'

def endsLine (c : Char) : Bool :=
  isLineBreak c || ['\x0b', '\x0c', '\x1c', '\x1d', '\x1e', '\x85', '\u2028', '\u2029'].contains c

/-- The lines of a text; a break at its end begins no line. -/
def linesOf (current : List Char) : List Char → List String
  | [] => if current.isEmpty then [] else [String.ofList current.reverse]
  | '\r' :: '\n' :: rest => String.ofList current.reverse :: linesOf [] rest
  | c :: rest =>
    if endsLine c then String.ofList current.reverse :: linesOf [] rest
    else linesOf (c :: current) rest

namespace Measure

def shown (m : Measure) (s : String) : String := if m.escapes then Escape.visible s else s

def lineWidth (m : Measure) (s : String) : Nat := (m.shown s).length

def parts (m : Measure) (cell : String) : List String :=
  if m.multiline then (cell.toList.splitOnP isLineBreak).map String.ofList else [cell]

def cellWidth (m : Measure) (cell : String) : Nat :=
  ((m.parts cell).map m.lineWidth).foldl max 0

/-- A number written in six significant digits, its escape sequences kept. -/
def writeReal (m : Measure) (cell : String) : String :=
  if m.escapes then
    let shown := Escape.visible cell
    match Text.readNumber? shown with
    | some x => cell.replace shown x.compactText
    | none => cell
  else
    let bare := String.ofList (cell.toList.filter (· != ','))
    match Text.readNumber? bare with
    | some x => x.compactText
    | none => bare

/-- An integer as it is, unless a setting stands before its digits: then nothing is
written that comes before the setting, and the digits are written anew. -/
def writeInteger (cell : String) : Except Fault String :=
  match Escape.SetNumber.find? cell.toList with
  | some number => if number.digits.all Char.isDigit then number.text else .ok cell
  | none => .ok cell

def writeCell (m : Measure) (kind : ColumnKind) (cell : String) : Except Fault String :=
  match kind with
  | .real => .ok (m.writeReal cell)
  | .integer => writeInteger cell
  | .flag | .text => .ok cell

end Measure

/-! ### Alignment -/

def blanks (n : Nat) : String := String.ofList (List.replicate n ' ')

def padLeft (width : Nat) (s : String) : String := blanks (width - s.length) ++ s

def padRight (width : Nat) (s : String) : String := s ++ blanks (width - s.length)

/-- The number of characters from the decimal point on, or from the exponent on
where there is no point. -/
def pointDistance (cell : String) : Nat :=
  if !(isNumber cell || hasThousands cell) || isInteger cell then 0
  else
    let reversed := cell.toList.reverse
    let after (isMark : Char → Bool) : Option Nat := (reversed.findIdx? isMark).map (· + 1)
    ((after (· == '.')).orElse fun _ => after fun c => c == 'e' || c == 'E').getD 0

namespace Measure

/-- Cells with blanks behind them, so that their decimal points are in line. -/
def alignPoints (m : Measure) (cells : List String) : List String :=
  let distance (cell : String) := pointDistance (m.shown cell)
  let furthest := (cells.map distance).foldl max 0
  cells.map fun cell => cell ++ blanks (furthest - distance cell)

/-- The lines of a cell, each brought to a width.  Beside escape sequences a line is
given the room that the part of the same number needs. -/
def setCell (m : Measure) (pad : Nat → String → String) (width : Nat) (cell : String) : List String :=
  let room (part : String) : Nat := width + part.length - m.lineWidth part
  if m.multiline then
    let lines := linesOf [] cell.toList
    if m.escapes then lines.zipWith (fun line part => pad (room part) line) (m.parts cell)
    else lines.map (pad width)
  else [pad (room cell) cell]

end Measure

/-- A column ready to be set. -/
structure TextColumn where
  width : Nat
  header : String
  cells : List (List String)
  deriving DecidableEq, Repr

/-- The cells of a column, aligned, under a header that is at least two
characters narrower than the column. -/
def column (m : Measure) (header : Option String) (cells : List String) : Except Fault TextColumn := do
  let kind := columnKind cells
  let pad := if kind.isNumeric then padLeft else padRight
  let cells ← cells.mapM (m.writeCell kind)
  let cells := if kind.isNumeric then m.alignPoints cells else cells.map Text.trim
  let least := (header.map (m.cellWidth · + 2)).getD 0
  let set := cells.map (m.setCell pad ((cells.map m.cellWidth).foldl max least))
  let width := (set.flatten.map m.lineWidth).foldl max least
  let header := header.getD ""
  return { width, header := pad (width + header.length - m.lineWidth header) header, cells := set }

end TextTable

end RequestBreakdown
