import Datacube.Error

/-!
# Sorting with a test that may fail

The list begins with an ascending run, or with a descending one that is turned round; every later
item is put into its place by halving the sorted part. Items that the test does not tell apart keep
their order. A test that fails fails the sort, and where the test is no order, as with numbers that
are none, the comparisons that are made decide.
-/

namespace Datacube.Merge
variable {α : Type}

/-- Continues a run: the items that go on in the same direction, the last one first, and the items
after them. -/
def runFrom (less : α → α → Outcome Bool) (descending : Bool) (run : List α) (last : α) :
    List α → Outcome (List α × List α)
  | [] => .ok (last :: run, [])
  | x :: rest => do
    if (← less x last) = descending then runFrom less descending (last :: run) x rest
    else return (last :: run, x :: rest)

/-- The run that a list begins with, in ascending order, and the items after it. -/
def firstRun (less : α → α → Outcome Bool) : List α → Outcome (List α × List α)
  | [] => .ok ([], [])
  | [x] => .ok ([x], [])
  | x :: y :: rest => do
    let descending ← less y x
    let (run, rest) ← runFrom less descending [x] y rest
    return (if descending then run else run.reverse, rest)

/-- The place of an item in a sorted list, between two places: behind the items that it does not
come before. -/
def placeIn (less : α → α → Outcome Bool) (sorted : List α) (x : α) (low high : Nat) :
    Outcome Nat :=
  if low < high then
    let middle := low + (high - low) / 2
    match sorted[middle]? with
    | none => .ok low
    | some y => do
      if ← less x y then placeIn less sorted x low middle
      else placeIn less sorted x (middle + 1) high
  else .ok low
termination_by high - low
decreasing_by all_goals simp_wf; omega

/-- Puts an item into its place. -/
def insertSorted (less : α → α → Outcome Bool) (sorted : List α) (x : α) : Outcome (List α) := do
  let place ← placeIn less sorted x 0 sorted.length
  return sorted.take place ++ x :: sorted.drop place

def sort (less : α → α → Outcome Bool) (items : List α) : Outcome (List α) := do
  let (run, rest) ← firstRun less items
  rest.foldlM (insertSorted less) run

end Datacube.Merge
