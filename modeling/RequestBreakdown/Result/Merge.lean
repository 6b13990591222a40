import RequestBreakdown.Result.Search

/-!
# Merging two runs

Two neighbouring runs become one.  Their items are compared one by one until one run
has won often enough in a row; from then on each run is searched for the items that
may be moved together, until that no longer pays.  How soon it is tried again is
the patience of the merge, which is handed on from one merge to the next.

A merge goes from the front, or from the back when the second run is the shorter.
Each goes through the runs from their ends that meet the merged items, so that
the items to be moved next are at the heads of the lists.
-/

namespace RequestBreakdown

/-- Which way a merge goes. -/
structure MergeOrder (α : Type) where
  /-- Whether the head of the longer run is moved before the head of the shorter. -/
  movesFirst : α → α → Bool
  fromBack : Bool

/-- How a merge goes on: item by item, or by searching. -/
inductive MergePace where
  | comparing (longerWon : Bool) (wins : Nat)
  | searching
  deriving DecidableEq, Repr

structure Merge (α : Type) where
  /-- The shorter run, of which an item is left until the end. -/
  shorter : List α
  longer : List α
  /-- What was moved, the latest first. -/
  merged : List α := []
  patience : Nat
  pace : MergePace := .comparing false 0

namespace Merge

variable {α : Type}

/-- The wins in a row that are worth a search, and the patience at the start. -/
def winsToSearch : Nat := 7

def isDone (m : Merge α) : Bool := m.shorter.length ≤ 1 || m.longer.isEmpty

def moveShorter (n : Nat) (m : Merge α) : Merge α :=
  { m with shorter := m.shorter.drop n, merged := (m.shorter.take n).reverse ++ m.merged }

def moveLonger (n : Nat) (m : Merge α) : Merge α :=
  { m with longer := m.longer.drop n, merged := (m.longer.take n).reverse ++ m.merged }

/-- The items at the front that are taken. -/
def countFront (o : MergeOrder α) (taken : α → Bool) (items : List α) : Nat :=
  if o.fromBack then
    items.length - Search.gallop (!taken ·) items.reverse (items.length - 1)
  else Search.gallop taken items 0

/-- Moves the items of the shorter run that come before the head of the longer, and
then that head; also their number. -/
def searchShorter (o : MergeOrder α) (m : Merge α) : Nat × Merge α :=
  match m.longer with
  | [] => (0, m)
  | head :: _ =>
    let n := countFront o (!o.movesFirst head ·) m.shorter
    let after := m.moveShorter n
    (n, if after.isDone then after else after.moveLonger 1)

/-- Moves the items of the longer run that come before the head of the shorter, and
then that head; also their number. -/
def searchLonger (o : MergeOrder α) (m : Merge α) : Nat × Merge α :=
  match m.shorter with
  | [] => (0, m)
  | head :: _ =>
    let n := countFront o (o.movesFirst · head) m.longer
    let after := m.moveLonger n
    (n, if after.isDone then after else after.moveShorter 1)

/-- Searches both runs, that which comes first in front.  Few items in both raise the
patience and end the search. -/
def search (o : MergeOrder α) (m : Merge α) : Merge α :=
  let (one, other) := if o.fromBack then (searchLonger, searchShorter) else (searchShorter, searchLonger)
  let (n, m) := one o m
  if m.isDone then m
  else
    let (k, m) := other o m
    if m.isDone then m
    else if winsToSearch ≤ max n k then { m with patience := max 1 (m.patience - 1) }
    else { m with patience := m.patience + 1, pace := .comparing false 0 }

/-- Moves the head that comes first. -/
def compareHeads (o : MergeOrder α) (longerWon : Bool) (wins : Nat) (m : Merge α) : Merge α :=
  match m.longer, m.shorter with
  | l :: _, s :: _ =>
    let longerWins := o.movesFirst l s
    let m := if longerWins then m.moveLonger 1 else m.moveShorter 1
    let wins := if longerWins = longerWon then wins + 1 else 1
    { m with pace := if wins < m.patience then .comparing longerWins wins else .searching }
  | _, _ => m

def next (o : MergeOrder α) (m : Merge α) : Merge α :=
  if m.isDone then m
  else
    match m.pace with
    | .comparing longerWon wins => m.compareHeads o longerWon wins
    | .searching => m.search o

def run (o : MergeOrder α) : Nat → Merge α → Merge α
  | 0, m => m
  | steps + 1, m => run o steps (m.next o)

/-- All items: one that is left of the shorter run comes last. -/
def items (m : Merge α) : List α := m.merged.reverse ++ m.longer ++ m.shorter

/-- The items of a shorter and a longer run in the order in which they were moved, and
the patience left.  The head of the longer run is known to come first. -/
def merge (o : MergeOrder α) (patience : Nat) (shorter longer : List α) : List α × Nat :=
  let start : Merge α := { shorter, longer, patience }
  let m := run o (shorter.length + longer.length) (start.moveLonger 1)
  (m.items, m.patience)

/-- Two runs that stand one after the other as one run, and the patience left.  Items
that are in their places already are left there. -/
def join (before : α → α → Bool) (patience : Nat) (first second : List α) : List α × Nat :=
  let stay := match second with
    | head :: _ => Search.gallop (!before head ·) first 0
    | [] => first.length
  let front := first.take stay
  let first := first.drop stay
  match first.getLast? with
  | none => (front ++ second, patience)
  | some last =>
    let meet := Search.gallop (before · last) second (second.length - 1)
    let back := second.drop meet
    let second := second.take meet
    if second.isEmpty then (front ++ first ++ back, patience)
    else if first.length ≤ second.length then
      let (merged, patience) := merge ⟨before, false⟩ patience first second
      (front ++ merged ++ back, patience)
    else
      let (merged, patience) := merge ⟨fun l s => before s l, true⟩ patience second.reverse first.reverse
      (front ++ merged.reverse ++ back, patience)

end Merge

end RequestBreakdown
