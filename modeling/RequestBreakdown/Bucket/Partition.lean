import RequestBreakdown.Bucket.Boundary
import RequestBreakdown.Bucket.Label

/-!
# Partitions of a numeric column

A numeric column is divided into labelled ranges.  The ranges are clauses tried
in order, the first that holds giving the label, and an open range at the top.
The same clauses are written out as an SQL expression.
-/

namespace RequestBreakdown

/-- The test of one clause. -/
inductive BucketTest where
  | isZero
  | below (bound : Nat)
  deriving DecidableEq, Repr

structure BucketClause where
  test : BucketTest
  label : String
  deriving DecidableEq, Repr

structure Partition where
  clauses : List BucketClause
  topLabel : String
  boundaries : List Nat
  deriving DecidableEq, Repr

namespace BucketTest

def condition (column : String) : BucketTest → String
  | .isZero => column ++ " = 0"
  | .below bound => column ++ " < " ++ toString bound

def holds (value : Nat) : BucketTest → Bool
  | .isZero => value == 0
  | .below bound => decide (value < bound)

end BucketTest

namespace Partition

def labels (p : Partition) : List String := p.clauses.map (·.label) ++ [p.topLabel]

/-- The label of a value: that of the first clause that holds. -/
def labelOf (p : Partition) (value : Nat) : String :=
  match p.clauses.find? (·.test.holds value) with
  | some clause => clause.label
  | none => p.topLabel

def clauseText (column : String) (clause : BucketClause) : String :=
  "WHEN " ++ clause.test.condition column ++ " THEN '" ++ clause.label ++ "'"

def expression (p : Partition) (column : String) : String :=
  "CASE " ++ " ".intercalate (p.clauses.map (clauseText column)) ++ " ELSE '" ++ p.topLabel ++ "' END"

def rangesBetween (label : Nat → String) (boundaries : List Nat) : List BucketClause :=
  (boundaries.zip boundaries.tail).map fun (low, high) =>
    ⟨.below high, label low ++ "-" ++ label high⟩

def openLabel (label : Nat → String) (boundaries : List Nat) : String :=
  "≥ " ++ label (boundaries.getLastD 0)

def emptyBody : BucketClause := ⟨.isZero, "0 (empty)"⟩

/-- The ranges of body sizes that lie not between two boundaries, but for the open one. -/
def bytesApart : Int := 2

def durationsApart : Int := 1

/-- Body sizes in `n` ranges: empty bodies, `n - 2` ranges up to the largest
boundary, and an open one above. -/
def bytes (n : Int) : Partition :=
  let boundaries := Boundary.select Boundary.byteCandidates (max 1 (n - bytesApart))
  let label := Label.ofBoundary Label.bytes
  let first := boundaries.headD 0
  { clauses := emptyBody :: ⟨.below first, "1 B-" ++ label first⟩ :: rangesBetween label boundaries
    topLabel := openLabel label boundaries
    boundaries }

/-- Response times in `n` ranges: one below the first boundary, `n - 2` between
boundaries, and an open one above. -/
def durations (n : Int) : Partition :=
  let boundaries := Boundary.select Boundary.durationCandidates (max 1 (n - durationsApart))
  let label := Label.ofBoundary Label.millis
  let first := boundaries.headD 0
  { clauses := ⟨.below first, "< " ++ label first⟩ :: rangesBetween label boundaries
    topLabel := openLabel label boundaries
    boundaries }

end Partition

end RequestBreakdown
