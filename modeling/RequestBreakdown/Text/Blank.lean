/-!
# White space

Two sets of blank characters.  Text is trimmed of every Unicode white space
character and of the four information separators; around a number the
separators are no blanks.
-/

namespace RequestBreakdown.Text

/-- Inclusive ranges of the blank code points. -/
def blankRanges : List (Nat × Nat) := [
  (0x9, 0xd), (0x1c, 0x20), (0x85, 0x85), (0xa0, 0xa0), (0x1680, 0x1680), (0x2000, 0x200a),
  (0x2028, 0x2029), (0x202f, 0x202f), (0x205f, 0x205f), (0x3000, 0x3000)]

def isBlank (c : Char) : Bool :=
  blankRanges.any fun range => decide (range.1 ≤ c.toNat ∧ c.toNat ≤ range.2)

/-- The blanks that may surround a number. -/
def isNumberBlank (c : Char) : Bool :=
  isBlank c && !decide (0x1c ≤ c.toNat ∧ c.toNat ≤ 0x1f)

def trimStartBy (blank : Char → Bool) (cs : List Char) : List Char := cs.dropWhile blank

def trimEndBy (blank : Char → Bool) (cs : List Char) : List Char :=
  (cs.reverse.dropWhile blank).reverse

def trimBy (blank : Char → Bool) (cs : List Char) : List Char :=
  trimEndBy blank (trimStartBy blank cs)

def trim (s : String) : String := String.ofList (trimBy isBlank s.toList)

/-- The characters without one line feed at their end. -/
def dropLineFeed (cs : List Char) : List Char :=
  if cs.getLast? == some '\n' then cs.dropLast else cs

end RequestBreakdown.Text
