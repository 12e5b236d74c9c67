import Datacube.Merge.Filter
import Datacube.Merge.Schedule
import Datacube.Merge.Sort
import Datacube.Metric.Aggregation

/-!
# Grouping rows

Merged rows are grouped by the values of the dimensions, and the partial results of every metric are
combined by its rollup. A metric without a number in its group stays null. The groups come out in
the order of their dimension values, nulls first.
-/

namespace Datacube

/-- How the results of several tables become one result: along which relations they are merged, how
merged rows are filtered and grouped, and how metrics are combined. -/
structure MergePlan where
  primary : Value
  relations : List JoinRelation
  dimensions : List Value
  metrics : List Value
  rollups : Entries Value Rollup
  filters : Value
  joinAliases : List Value

namespace Rollup

/-- The aliases under which a rollup reads the partial results of a metric. -/
def partials (r : Rollup) (aliasName : Value) : List Value :=
  match r with
  | avg => [aliasName.toText ++ "__sum", aliasName.toText ++ "__count"]
  | _ => [aliasName]

/-- The number in a cell, if there is one. -/
def number? (row : Row) (column : Value) : Option Float :=
  match (row.cell column).toNumber with
  | .ok x => x
  | .error _ => none

def numbers (rows : List Row) (column : Value) : List Float := rows.filterMap (number? · column)

/-- The sum of a list of numbers, from the first to the last. -/
def total (xs : List Float) : Float := xs.foldl (· + ·) 0.0

/-- The earlier of two numbers unless the other one is smaller. -/
def smaller (x y : Float) : Float := if y < x then y else x

/-- The earlier of two numbers unless the other one is greater. -/
def greater (x y : Float) : Float := if y > x then y else x

/-- Combines the partial results of a metric in the rows of a group. -/
def combine (r : Rollup) (aliasName : Value) (rows : List Row) : Value :=
  match r with
  | avg =>
    let sums := numbers rows (.text (aliasName.toText ++ "__sum"))
    let count := total (numbers rows (.text (aliasName.toText ++ "__count")))
    if sums.isEmpty || count == 0.0 then .null else .ofFloat (total sums / count)
  | sum => match numbers rows aliasName with
    | [] => .null
    | xs => .ofFloat (total xs)
  | min => match numbers rows aliasName with
    | [] => .null
    | x :: xs => .ofFloat (xs.foldl smaller x)
  | max => match numbers rows aliasName with
    | [] => .null
    | x :: xs => .ofFloat (xs.foldl greater x)

end Rollup

namespace MergePlan

/-- The rollup of a metric; metrics without one are added up. -/
def rollup (p : MergePlan) (aliasName : Value) : Rollup := (p.rollups.get? aliasName).getD .sum

def groupKey (p : MergePlan) (row : Row) : List Value := p.dimensions.map row.cell

/-- Checks that a row can be grouped: its dimensions, their values and the metrics are keys, and its
partial results lie within the range of floats. -/
def check (p : MergePlan) (row : Row) : Outcome Unit := do
  if !((p.dimensions ++ p.groupKey row ++ p.metrics).all (·.isKey)) then fail .wrongType
  p.metrics.forM fun aliasName => ((p.rollup aliasName).partials aliasName).forM fun column => do
    let _ ← (row.cell column).toNumber
    return ()

/-- The rows of every group by their dimension values, in the order in which groups first come. -/
def groups (p : MergePlan) (rows : List Row) : Entries (List Value) (List Row) :=
  rows.foldl (fun acc row => acc.push (p.groupKey row) row) []

def resultRow (p : MergePlan) (key : List Value) (rows : List Row) : Row :=
  p.metrics.foldl
    (fun acc aliasName => acc.put aliasName ((p.rollup aliasName).combine aliasName rows))
    (Entries.ofPairs (p.dimensions.zip key))

/-- Whether one list of values comes before another: at the first difference a null comes before
everything else. -/
def comesBefore : List Value → List Value → Outcome Bool
  | a :: as, b :: bs =>
    if a.same b then comesBefore as bs
    else if a.isNull || b.isNull then .ok a.isNull
    else do return (← a.order b) = .less
  | _, _ => .ok false

/-- The values by which a result row is ordered. -/
def sortKey (p : MergePlan) (row : Row) : List Value := p.dimensions.map row.cell

/-- Orders result rows by their dimensions; rows with equal dimensions keep their order. -/
def sort (p : MergePlan) (rows : List Row) : Outcome (List Row) :=
  Merge.sort (fun a b => comesBefore (p.sortKey a) (p.sortKey b)) rows

def group (p : MergePlan) (rows : List Row) : Outcome (List Row) := do
  rows.forM p.check
  p.sort ((p.groups rows).map fun (key, members) => p.resultRow key members)

/-- The result of the table results: merged, filtered and grouped. -/
def run (p : MergePlan) (results : Entries Value (List Row)) : Outcome (List Row) := do
  let rows ← mergeResults p.primary p.relations results
  p.group (← Row.filterAll p.filters rows)

end MergePlan
end Datacube
