import RequestBreakdown.Text.Quoted
import RequestBreakdown.Value.Basic

/-!
# The text of values

A text stands for itself, a time for its ISO text.  Inside of lists and records a text
is quoted and a time is taken apart, so that it can be seen where each value ends.
-/

namespace RequestBreakdown

namespace Value

mutual

/-- How a value is written inside of others, and in messages. -/
def quoted : Value → String
  | .null => "None"
  | .flag b => (Number.flag b).text
  | .int i => toString i
  | .real x => x.text
  | .text s => Text.quoted s
  | .time t => t.partsText
  | .list items => "[" ++ ", ".intercalate (quotedItems items) ++ "]"
  | .record fields => "\x7b" ++ ", ".intercalate (quotedFields fields) ++ "\x7d"

def quotedItems : List Value → List String
  | [] => []
  | item :: rest => item.quoted :: quotedItems rest

def quotedFields : List (String × Value) → List String
  | [] => []
  | (name, value) :: rest => (Text.quoted name ++ ": " ++ value.quoted) :: quotedFields rest

end

def display : Value → String
  | .text s => s
  | .time t => t.isoText " "
  | value => value.quoted

/-- The text of a value, if that does not count as absent. -/
def shown? (value : Value) : Option String := value.present?.map display

end Value

end RequestBreakdown
