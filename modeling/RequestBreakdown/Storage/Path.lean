/-!
# Paths

A path starts at the root or not, and goes on part by part.  Empty parts and parts
that say nothing are left out; a step back is kept, since where it leads depends on
what the step before it led to.
-/

namespace RequestBreakdown

structure Path where
  /-- What a path from the root starts with; empty for all others. -/
  root : String := ""
  parts : List String := []
  deriving DecidableEq, Repr

namespace Path

def stepBack : String := ".."

/-- Exactly two slashes in front are not the same as one. -/
def rootOf (text : String) : String :=
  match (text.toList.takeWhile (· == '/')).length with
  | 0 => ""
  | 2 => "//"
  | _ => "/"

def read (text : String) : Path :=
  { root := rootOf text, parts := (text.splitOn "/").filter fun part => part != "" && part != "." }

def text (p : Path) : String :=
  if p.root = "" ∧ p.parts = [] then "." else p.root ++ "/".intercalate p.parts

/-- Whether a character is in the way that no path can have. -/
def hasNul (p : Path) : Bool := p.text.contains '\x00'

/-- The other path seen from this one; a path from the root is the same from everywhere. -/
def join (p other : Path) : Path :=
  if other.root = "" then { p with parts := p.parts ++ other.parts } else other

def child (p : Path) (name : String) : Path := { p with parts := p.parts ++ [name] }

/-- The names that lead to the path, each step back undoing the step before it. -/
def names (p : Path) : List String :=
  p.parts.foldl (fun names part => if part = stepBack then names.dropLast else names ++ [part]) []

end Path

end RequestBreakdown
