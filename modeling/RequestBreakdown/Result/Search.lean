/-!
# Searching in a run

Some items at the front of a run are meant to stay there.  Where they end is found
by halving, or at distances that double from a place at which the search begins.
When no item that stays comes after one that does not, every such search finds the
same place; else the place depends on which items were looked at.
-/

namespace RequestBreakdown

namespace Search

variable {α : Type}

/-- Where the items that stay end, between `low` and `high`. -/
def halve (stays : α → Bool) (items : List α) (low high : Nat) : Nat :=
  if low < high then
    let middle := low + (high - low) / 2
    match items[middle]? with
    | some item =>
      if stays item then halve stays items (middle + 1) high else halve stays items low middle
    | none => low
  else low
termination_by high - low

/-- How far one may go, in steps of which each is one longer than all before it, while
the test holds: the last distance at which it held, and the next, which is no more
than the limit. -/
def reach (holds : Nat → Bool) (limit near far : Nat) : Nat × Nat :=
  if far < limit then
    if holds far then reach holds limit far (2 * far + 1) else (near, far)
  else (near, limit)
termination_by limit - far

/-- Where the items that stay end, looked for from `start` on in the direction in which
that place lies. -/
def gallop (stays : α → Bool) (items : List α) (start : Nat) : Nat :=
  let staysAt (i : Nat) : Bool := (items[i]?.map stays).getD false
  if staysAt start then
    let (near, far) := reach (fun d => staysAt (start + d)) (items.length - start) 0 1
    halve stays items (start + near + 1) (start + far)
  else
    let (near, far) := reach (fun d => !staysAt (start - d)) (start + 1) 0 1
    halve stays items (start + 1 - far) (start - near)

end Search

end RequestBreakdown
