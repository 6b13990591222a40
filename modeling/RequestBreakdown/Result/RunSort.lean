import RequestBreakdown.Power
import RequestBreakdown.Result.Insertion
import RequestBreakdown.Result.Merge

/-!
# Sorting by runs

The runs of a list are merged with their neighbours, so that runs of like length meet.
When the items have an order this sorts them, equal ones as they came.  When some
have no place in the order the outcome still depends on nothing but the comparisons
that were made, and so it is fixed.
-/

namespace RequestBreakdown

namespace RunSort

variable {α : Type}

/-- Shorter runs are made longer: lists of fewer items are one run. -/
def leastToMerge : Nat := 64

/-- The least length of a run, such that the runs of a list are about a power of two. -/
def leastRun (count : Nat) : Nat :=
  if count < leastToMerge then count
  else
    let share := twoTo (Nat.log2 count - 5)
    (count + share - 1) / share

/-- The halvings of a list after which the middles of two neighbouring runs, of which
the first begins at `start`, are no longer in the same part. -/
def depth (count start first second : Nat) : Nat :=
  let middle := 2 * start + first
  let part (middle halvings : Nat) : Nat := twoTo halvings * middle / count
  (((List.range count).find? fun n => part middle n != part (middle + first + second) n).getD 0) + 1

/-- A run, and how deep the border behind it lies. -/
structure Run (α : Type) where
  items : List α
  border : Nat := 0

/-- Runs that wait for their neighbours, the last one first. -/
structure Pending (α : Type) where
  runs : List (Run α) := []
  patience : Nat := Merge.winsToSearch

/-- The last run, after it was joined to those before it whose borders are deeper. -/
def absorb (before : α → α → Bool) (border : Nat) (last : List α) (patience : Nat) :
    List (Run α) → Pending α
  | [] => { runs := [{ items := last, border }], patience }
  | run :: rest =>
    if border < run.border then
      let (joined, patience) := Merge.join before patience run.items last
      absorb before border joined patience rest
    else { runs := { items := last, border } :: run :: rest, patience }

/-- The runs after one more came in, of a list of so many items. -/
def addRun (before : α → α → Bool) (count : Nat) (p : Pending α) (items : List α) : Pending α :=
  match p.runs with
  | [] => { p with runs := [{ items }] }
  | last :: rest =>
    let start := (rest.flatMap (·.items)).length
    let p := absorb before (depth count start last.items.length items.length) last.items p.patience rest
    { p with runs := { items } :: p.runs }

/-- Joins the last two runs, or the two before the last when the first of these is
shorter than the last. -/
def joinNext (before : α → α → Bool) (p : Pending α) : Pending α :=
  match p.runs with
  | third :: second :: first :: rest =>
    if first.items.length < third.items.length then
      let (items, patience) := Merge.join before p.patience first.items second.items
      { runs := third :: { items } :: rest, patience }
    else
      let (items, patience) := Merge.join before p.patience second.items third.items
      { runs := { items } :: first :: rest, patience }
  | [second, first] =>
    let (items, patience) := Merge.join before p.patience first.items second.items
    { runs := [{ items }], patience }
  | _ => p

def joinAll (before : α → α → Bool) : Nat → Pending α → Pending α
  | 0, p => p
  | steps + 1, p => joinAll before steps (joinNext before p)

def sort (before : α → α → Bool) (items : List α) : List α :=
  let runs := Insertion.runs before (leastRun items.length) items.length items
  let pending := runs.foldl (addRun before items.length) {}
  (joinAll before pending.runs.length pending).runs.flatMap (·.items)

end RunSort

end RequestBreakdown
