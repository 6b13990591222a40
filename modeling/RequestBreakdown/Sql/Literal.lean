import RequestBreakdown.Value.Text

/-!
# Literals

How a value is written in a statement: numbers bare, everything else between
single quotes with each quote inside doubled.
-/

namespace RequestBreakdown

namespace Literal

def doubleQuotes (cs : List Char) : List Char :=
  cs.flatMap fun c => if c = '\'' then ['\'', '\''] else [c]

def quote (s : String) : String := String.ofList ('\'' :: doubleQuotes s.toList ++ ['\''])

def ofValue : Value → String
  | .int i => toString i
  | .real x => x.text
  | value => quote value.display

end Literal

end RequestBreakdown
