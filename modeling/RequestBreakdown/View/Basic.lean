import RequestBreakdown.Breakdown.Catalog

/-!
# Parts of a view

How fast a query was, how many rows could be asked for next, how a group's text
is divided, and how large counts are abbreviated.
-/

namespace RequestBreakdown

inductive SpeedClass where
  | fast
  | medium
  | slow
  deriving DecidableEq, Repr

namespace SpeedClass

/-- Fast below 2.5 seconds, medium below 4, slow from there on. -/
def ofMillis (elapsed : Number) : SpeedClass :=
  if elapsed.lt (.int 2500) then .fast
  else if elapsed.lt (.int 4000) then .medium
  else .slow

def text : SpeedClass → String
  | .fast => "fast"
  | .medium => "medium"
  | .slow => "slow"

end SpeedClass

/-- The least number of rows offered above the given one. -/
def nextTopN? (topN : Number) : Option Int := topNOptions.find? fun option => topN.lt (.int option)

/-- The first of the prefixes that a text goes on after, and the rest of the text.  A prefix
that is no text is wrong when it is come to. -/
def splitPrefix (text : String) : List Value → Except Fault (String × String)
  | [] => .ok ("", text)
  | .text leading :: others =>
    if leading.toList.isPrefixOf text.toList && decide (leading.length < text.length) then
      .ok (leading, (text.drop leading.length).toString)
    else splitPrefix text others
  | _ :: _ => .error (.operand .unsuitable)

/-- The prefixes that are given; a value that counts as absent gives none. -/
def prefixesOf (given : Value) : Except Fault (List Value) :=
  match given.present? with
  | some given => given.items
  | none => .ok []

/-- A value that is divided like a text.  One that is no text can only be left whole, and
only when there is no prefix to look for. -/
def splitValue (value prefixes : Value) : Except Fault (String × Value) := do
  let prefixes ← prefixesOf prefixes
  if prefixes.isEmpty then return ("", value)
  let (leading, rest) ← splitPrefix (← value.asText) prefixes
  return (leading, .text rest)

/-- The units that counts are abbreviated in, largest first. -/
def countUnits : List (Nat × String) := [(1000000000, "B"), (1000000, "M"), (1000, "K")]

/-- A count in the largest unit that it reaches, with one decimal; a smaller one
without its fraction. -/
def abbreviated (count : Value) : Except Fault String := do
  let n ← count.toBinary64
  match countUnits.find? fun entry => (Binary64.ofInt entry.1).le n.abs with
  | some (unit, letter) => return (n.div (Binary64.ofInt unit)).placesText 1 ++ letter
  | none => return toString (← (Number.real n).truncate)

end RequestBreakdown
