import RequestBreakdown.Result.Search

/-!
# Runs, and how they grow

Items that are in order already make a run.  A run is made longer by putting the
items behind it one by one where a halving search finds room for them.
-/

namespace RequestBreakdown

namespace Insertion

variable {α : Type}

/-- The items in front that go on like `previous`, and the others. -/
def splitRun (goesOn : α → α → Bool) (previous : α) : List α → List α × List α
  | [] => ([], [])
  | item :: rest =>
    if goesOn previous item then
      let (run, others) := splitRun goesOn item rest
      (item :: run, others)
    else ([], item :: rest)

/-- The item among those in order, behind its equals. -/
def insert (before : α → α → Bool) (items : List α) (item : α) : List α :=
  items.insertIdx (Search.halve (fun other => !before item other) items 0 items.length) item

/-- The first run, of at least the given length where there are so many items, and
what is left.  A run that falls is turned around. -/
def takeRun (before : α → α → Bool) (least : Nat) : List α → List α × List α
  | first :: second :: rest =>
    let falling := before second first
    let (tail, others) :=
      splitRun (fun previous item => before item previous == falling) first (second :: rest)
    let run := if falling then (first :: tail).reverse else first :: tail
    let missing := least - run.length
    ((others.take missing).foldl (insert before) run, others.drop missing)
  | items => (items, [])

def runs (before : α → α → Bool) (least : Nat) : Nat → List α → List (List α)
  | 0, _ => []
  | _, [] => []
  | count + 1, items =>
    let (run, others) := takeRun before least items
    run :: runs before least count others

end Insertion

end RequestBreakdown
