import RequestBreakdown.Text.Printable

/-!
# Quoted text

Messages show a text between quotes so that its ends and its invisible
characters can be seen.  Single quotes are used unless the text holds one and
no double quote; a backslash, the quote in use and every character without a
visible form are escaped.
-/

namespace RequestBreakdown.Text

def hexDigits (width : Nat) (code : Nat) : List Char :=
  let digits := Nat.toDigits 16 code
  List.replicate (width - digits.length) '0' ++ digits

def quoteFor (cs : List Char) : Char :=
  if cs.contains '\'' && !cs.contains '"' then '"' else '\''

def escapeChar (quote : Char) (c : Char) : List Char :=
  if c = quote ∨ c = '\\' then ['\\', c]
  else if c = '\n' then ['\\', 'n']
  else if c = '\r' then ['\\', 'r']
  else if c = '\t' then ['\\', 't']
  else if isPrintable c then [c]
  else if c.toNat < 0x100 then ['\\', 'x'] ++ hexDigits 2 c.toNat
  else if c.toNat < 0x10000 then ['\\', 'u'] ++ hexDigits 4 c.toNat
  else ['\\', 'U'] ++ hexDigits 8 c.toNat

def quoted (s : String) : String :=
  let quote := quoteFor s.toList
  String.ofList (quote :: s.toList.flatMap (escapeChar quote) ++ [quote])

/-- The front of a quoted text, its quotes counted. -/
def quotedUpTo (length : Nat) (s : String) : String :=
  String.ofList ((quoted s).toList.take length)

end RequestBreakdown.Text
