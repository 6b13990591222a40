/-!
# Scripts

Prepared answers for statements.  A rule answers the statements whose text holds
all of its parts, as often as it may be used; of several rules the first answers.
-/

namespace RequestBreakdown

structure ScriptRule (α : Type) where
  /-- What the text of a statement must hold. -/
  parts : List String := []
  /-- How often the rule can still be used; without a number, always. -/
  uses : Option Nat := none
  answer : α
  deriving DecidableEq, Repr

abbrev Script (α : Type) := List (ScriptRule α)

def occursIn (part : List Char) : List Char → Bool
  | [] => part.isEmpty
  | c :: rest => part.isPrefixOf (c :: rest) || occursIn part rest

namespace ScriptRule

variable {α : Type}

def answers (rule : ScriptRule α) (text : String) : Bool :=
  rule.uses != some 0 && rule.parts.all fun part => occursIn part.toList text.toList

def use (rule : ScriptRule α) : ScriptRule α := { rule with uses := rule.uses.map (· - 1) }

end ScriptRule

namespace Script

variable {α : Type}

/-- The answer to a statement, and the script after its rule has been used. -/
def take? : Script α → String → Option (α × Script α)
  | [], _ => none
  | rule :: rest, text =>
    if rule.answers text then some (rule.answer, rule.use :: rest)
    else (take? rest text).map fun (answer, rest) => (answer, rule :: rest)

end Script

end RequestBreakdown
