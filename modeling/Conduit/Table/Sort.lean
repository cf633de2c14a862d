import Conduit.Number.Double
import Conduit.Table.Merge

/-!
# Stable sorting

Sorts by a comparison that may fail. The items are compared in a fixed order, so that it is also
fixed which failure is met first. The list is cut into runs: the longest ascending or strictly
descending run is kept or reversed, and a short one takes in more items, each put in its place by
halving. The runs are merged two by two, close to where a list is halved again and again.

* `sortBy` — ascending;
* `sortByDescending` — descending; ties keep their order here too.
-/

namespace Conduit.Table

variable {α ε : Type}

/-! ## Runs -/

/-- The number of items at the start that go on descending from `previous`. -/
def descendingRun (less : α → α → Except ε Bool) (previous : α) : List α → Except ε Nat
  | [] => .ok 0
  | x :: rest => do
    if ← less x previous then return (← descendingRun less x rest) + 1 else return 0

/-- The number of items at the start that go on without descending from `previous`. -/
def ascendingRun (less : α → α → Except ε Bool) (previous : α) : List α → Except ε Nat
  | [] => .ok 0
  | x :: rest => do
    if ← less x previous then return 0 else return (← ascendingRun less x rest) + 1

/-- The run at the start of a list, ascending, and the items after it. -/
def firstRun (less : α → α → Except ε Bool) : List α → Except ε (List α × List α)
  | [] => .ok ([], [])
  | [x] => .ok ([x], [])
  | x :: y :: rest => do
    if ← less y x then
      let n ← descendingRun less y rest
      return ((x :: y :: rest.take n).reverse, rest.drop n)
    else
      let n ← ascendingRun less y rest
      return (x :: y :: rest.take n, rest.drop n)

/-- A sorted list with one item more, after all items that are not greater. -/
def insert (less : α → α → Except ε Bool) (sorted : List α) (x : α) : Except ε (List α) := do
  let i ← halve false (fun y => return !(← less x y)) sorted (sorted.length + 1) 0 sorted.length
  return sorted.take i ++ x :: sorted.drop i

/-- The least length of the runs of a list: all of a list of fewer than 64 items, and else between
32 and 64, so that the number of runs is close to a power of two. -/
def leastRun (length : Nat) : Nat :=
  if length < 64 then length
  else
    let unit := twoTo (length.log2 - 5)
    (length + unit - 1) / unit

/-- A sorted run of at least so many items, if there are as many, and the items after it. -/
def takeRun (less : α → α → Except ε Bool) (least : Nat) (items : List α) :
    Except ε (List α × List α) := do
  let (run, rest) ← firstRun less items
  let missing := least - run.length
  return (← (rest.take missing).foldlM (insert less) run, rest.drop missing)

/-! ## Merging the runs -/

/-- A sorted run that waits for those after it. -/
structure Waiting (α : Type) where
  /-- The items of the run. -/
  items : List α
  /-- The level of the boundary between the run and the next one. -/
  level : Nat

/-- The level of the boundary between two runs of a list: how often the list must be halved until
the middles of the two runs lie in different parts. -/
def boundaryLevel (start first second length : Nat) : Nat :=
  let a := 2 * start + first
  let b := a + first + second
  ((List.range (length.log2 + 2)).find? fun k =>
    a * twoTo k / length != b * twoTo k / length).getD 0

/-- Merges the last run with those before it, as far as their boundaries lie deeper than `level`. -/
def settle (less : α → α → Except ε Bool) (level : Nat) :
    List (Waiting α) → List α → Comparing ε (List (Waiting α) × List α)
  | [], last => return ([], last)
  | w :: before, last => do
    if level < w.level then settle less level before (← merge less w.items last)
    else return (w :: before, last)

/-- Cuts a list into runs and merges those of them that must not wait. The answer has the runs that
wait, the nearest first, and the last one. `fuel` bounds the number of runs. -/
def mergeRuns (less : α → α → Except ε Bool) (length : Nat) :
    Nat → List (Waiting α) → List α → List α → Comparing ε (List (Waiting α) × List α)
  | 0, waiting, last, _ => return (waiting, last)
  | _ + 1, waiting, last, [] => return (waiting, last)
  | fuel + 1, waiting, last, items => do
    let (run, rest) ← takeRun less (leastRun length) items
    let start := (waiting.map fun w => w.items.length).sum
    let level := boundaryLevel start last.length run.length length
    let (waiting, last) ← settle less level waiting last
    mergeRuns less length fuel (⟨last, level⟩ :: waiting) run rest

/-- Merges all runs that are left, the shorter ones first. -/
def mergeAll (less : α → α → Except ε Bool) : List (List α) → List α → Comparing ε (List α)
  | [], last => return last
  | [b], last => merge less b last
  | b :: a :: before, last => do
    if a.length < last.length then mergeAll less ((← merge less a b) :: before) last
    else mergeAll less (a :: before) (← merge less b last)
termination_by waiting => waiting.length

/-! ## Sorting -/

/-- The items of a list in ascending order. -/
def sortBy (less : α → α → Except ε Bool) (l : List α) : Except ε (List α) := do
  let (run, rest) ← takeRun less (leastRun l.length) l
  let sorted : Comparing ε (List α) := do
    let (waiting, last) ← mergeRuns less l.length l.length [] run rest
    mergeAll less (waiting.map fun w => w.items) last
  return (← sorted.run leapLength).1

/-- The items of a list in descending order. -/
def sortByDescending (less : α → α → Except ε Bool) (l : List α) : Except ε (List α) := do
  return (← sortBy less l.reverse).reverse

end Conduit.Table
