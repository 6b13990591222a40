/-!
# Styled text

Text with a style of its own and further styles on parts of it, and tables of
such texts.
-/

namespace RequestBreakdown

inductive TextStyle where
  | none
  | bold
  | dim
  | italic
  | green
  | yellow
  | red
  | boldRed
  deriving DecidableEq, Repr

def TextStyle.text : TextStyle → String
  | .none => ""
  | .bold => "bold"
  | .dim => "dim"
  | .italic => "italic"
  | .green => "green"
  | .yellow => "yellow"
  | .red => "red"
  | .boldRed => "bold red"

/-- A style from one position up to another, counted in characters. -/
structure StyledSpan where
  start : Nat
  stop : Nat
  style : TextStyle
  deriving DecidableEq, Repr

structure StyledText where
  text : String
  style : TextStyle
  spans : List StyledSpan := []
  deriving DecidableEq, Repr

namespace StyledText

/-- The characters that would ring a bell or move the cursor: bell, backspace,
vertical tab, form feed and carriage return. -/
def isTerminalControl (c : Char) : Bool := ['\x07', '\x08', '\x0b', '\x0c', '\x0d'].contains c

def withoutControls (s : String) : String :=
  String.ofList (s.toList.filter fun c => !isTerminalControl c)

def of (text : String) (style : TextStyle) : StyledText := { text := withoutControls text, style }

def append (t : StyledText) (more : String) (style : TextStyle) : StyledText :=
  if more = "" then t
  else
    let shown := withoutControls more
    let span : StyledSpan := ⟨t.text.length, t.text.length + shown.length, style⟩
    { t with text := t.text ++ shown, spans := if style = .none then t.spans else t.spans ++ [span] }

end StyledText

structure StyledColumn where
  header : String
  flushRight : Bool := false
  /-- Whether its cells stay on one line. -/
  unwrapped : Bool := false
  deriving DecidableEq, Repr

/-- One row of a breakdown: the mark, the group, the count and the bar. -/
structure StyledRow where
  mark : String
  group : StyledText
  count : String
  bar : Option StyledText
  deriving DecidableEq, Repr

structure StyledTable where
  title : StyledText
  rows : List StyledRow
  deriving DecidableEq, Repr

namespace StyledTable

def columns : List StyledColumn := [
  { header := "" }, { header := "value" }, { header := "count", flushRight := true },
  { header := "status", unwrapped := true }]

def headerStyle : TextStyle := .bold

def rowText (r : StyledRow) : String :=
  "  ".intercalate [r.mark, r.group.text, r.count, (r.bar.map (·.text)).getD ""]

/-- The table without its styles: the title and a line for each row. -/
def lines (t : StyledTable) : List String := t.title.text :: t.rows.map rowText

end StyledTable

end RequestBreakdown
