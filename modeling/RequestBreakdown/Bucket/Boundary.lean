import RequestBreakdown.Number

/-!
# Bucket boundaries

Candidate boundaries of numeric buckets, and the choice of a given number of
them, spread evenly over the candidates.
-/

namespace RequestBreakdown

namespace Boundary

/-- The decades `first`, `10 * first`, … up to the limit, each with its double
and its fivefold. -/
def decades (first limit : Nat) : List Nat :=
  if 0 < first ∧ first ≤ limit then
    first :: first * 2 :: first * 5 :: decades (first * 10) limit
  else []
termination_by limit + 1 - first
decreasing_by omega

/-- The 1/2/5 progression: three boundaries a decade, from `first` up to the limit. -/
def progression (first limit : Nat) : List Nat :=
  (decades first limit).filter (· ≤ limit)

/-- The progression for any two integers; above its limit it is empty. -/
def progressionBetween (first limit : Int) : List Nat :=
  if limit < first then [] else progression first.toNat limit.toNat

/-- The decades from one number up to another, which may both have fractions. -/
def decadesOf (limit : Number) : Nat → Number → List Number
  | 0, _ => []
  | steps + 1, first =>
    if first.le limit then first :: first.times 2 :: first.times 5 :: decadesOf limit steps (first.times 10)
    else []

/-- No binary64 number is so many times ten as large as another. -/
def mostDecades : Nat := 700

def progressionOf (first limit : Number) : List Number :=
  match first, limit with
  | .int first, .int limit => (progressionBetween first limit).map .ofNat
  | _, _ => (decadesOf limit mostDecades first).filter fun n => first.le n && n.le limit

/-- The candidate position nearest to the `i`-th of `count` even steps, a half
going up. -/
def evenPosition (last count i : Nat) : Nat :=
  (2 * i * last + (count - 1)) / (2 * (count - 1))

/-- `count` candidates at even distances, the first and the last among them.
All candidates when there are no more than that; a count of one or less keeps
the last one. -/
def select {α : Type} (candidates : List α) (count : Int) : List α :=
  if (candidates.length : Int) ≤ count then candidates
  else if count ≤ 1 then candidates.getLast?.toList
  else
    let count := count.toNat
    (List.range count).filterMap fun i =>
      candidates[evenPosition (candidates.length - 1) count i]?

/-- Without candidates there is no last one to keep. -/
def select? {α : Type} (candidates : List α) (count : Int) : Except Fault (List α) :=
  if candidates.isEmpty ∧ count < 0 then .error .indexOutOfRange else .ok (select candidates count)

/-- The choice for a count that need not be whole.  A count with a fraction makes sense
only where all candidates or the last one is chosen. -/
def selectOf {α : Type} (candidates : List α) (count : Number) : Except Fault (List α) :=
  match count.integer? with
  | some count => select? candidates count
  | none =>
    if (Number.ofNat candidates.length).le count then .ok candidates
    else if count.le (.int 1) then select? candidates (-1)
    else .error (.operand .unsuitable)

/-- Body sizes from 10 B to 100 MB. -/
def byteCandidates : List Nat := progression 10 100000000

/-- Response times from 1 ms to 60 s. Steps that mean something to a reader are
not the same in every decade. -/
def durationCandidates : List Nat := [
  1, 2, 3, 5, 7, 10, 15, 20, 30, 50, 70, 100,
  150, 200, 300, 500, 700, 1000,
  1500, 2000, 3000, 5000, 7000, 10000,
  15000, 20000, 30000, 60000]

end Boundary

end RequestBreakdown
