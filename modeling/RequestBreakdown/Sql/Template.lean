import RequestBreakdown.Fault

/-!
# Templates

A template is text with markers such as `#LIMIT#`: a name of capitals and
underscores between two number signs.  Markers are found from left to right and
never overlap.  Filling replaces each marker by its value in a single pass, so
that text inside a value is never taken for a marker.
-/

namespace RequestBreakdown

namespace Template

def isMarkerChar (c : Char) : Bool := c == '_' || decide ('A' ≤ c ∧ c ≤ 'Z')

inductive Piece where
  | char (c : Char)
  | marker (name : List Char)
  deriving DecidableEq, Repr

/-- The marker name in front of a text that follows a number sign, and what
comes after the closing sign. -/
def takeMarker? (cs : List Char) : Option (List Char × List Char) :=
  match cs.dropWhile isMarkerChar with
  | '#' :: rest =>
    if (cs.takeWhile isMarkerChar).isEmpty then none else some (cs.takeWhile isMarkerChar, rest)
  | _ => none

theorem length_takeMarker?_lt {cs name rest : List Char}
    (h : takeMarker? cs = some (name, rest)) : rest.length < cs.length := by
  have hsplit := congrArg List.length
    (List.takeWhile_append_dropWhile (p := isMarkerChar) (l := cs))
  rw [List.length_append] at hsplit
  unfold takeMarker? at h
  split at h
  · rename_i after hdrop
    split at h
    · simp at h
    · simp only [Option.some.injEq, Prod.mk.injEq] at h
      rw [hdrop, List.length_cons, h.2] at hsplit
      omega
  · simp at h

def parse (cs : List Char) : List Piece :=
  match cs with
  | [] => []
  | c :: rest =>
    if c = '#' then
      match h : takeMarker? rest with
      | some (name, after) =>
        have := length_takeMarker?_lt h
        .marker name :: parse after
      | none => .char c :: parse rest
    else .char c :: parse rest
termination_by cs.length

abbrev Values := List (String × String)

def Piece.value? (values : Values) : Piece → Except String (List Char)
  | .char c => .ok [c]
  | .marker name =>
    match values.lookup (String.ofList name) with
    | some value => .ok value.toList
    | none => .error (String.ofList name)

/-- The pieces with their values in place, or the first name without a value. -/
def fillPieces (values : Values) : List Piece → Except String (List Char)
  | [] => .ok []
  | piece :: rest => do
    let front ← piece.value? values
    let back ← fillPieces values rest
    return front ++ back

/-- The template with each marker replaced by its value, or the name of the
first marker that has none. -/
def fill (template : String) (values : Values) : Except String String :=
  (fillPieces values (parse template.toList)).map String.ofList

/-- The template filled; one with a marker that has no value stays as it is. -/
def fillOrKeep (template : String) (values : Values) : String :=
  match fill template values with
  | .ok text => text
  | .error _ => template

end Template

end RequestBreakdown
