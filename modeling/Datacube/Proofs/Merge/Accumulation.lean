import Datacube.Proofs.Merge.Totals

/-!
# Accumulating partial results

What a rollup combines for a metric can be had one row after the other: a running total and count,
or the extreme so far, and whether any row carried a number.
-/

namespace Datacube

/-- What is known of a metric after some rows of its group. -/
structure Accumulator where
  total : Float
  count : Float
  extreme : Option Float
  seen : Bool

namespace Accumulator
variable {acc : Accumulator} {r : Rollup} {aliasName column : Value} {rows : List Row}

def start : Accumulator := ⟨0.0, 0.0, none, false⟩

def addTotal (acc : Accumulator) (x : Float) : Accumulator :=
  { acc with total := acc.total + x, seen := true }

def addCount (acc : Accumulator) (x : Float) : Accumulator := { acc with count := acc.count + x }

/-- Keeps one of the number and the extreme so far. -/
def addExtreme (pick : Float → Float → Float) (acc : Accumulator) (x : Float) : Accumulator :=
  { acc with extreme := some (acc.extreme.elim x (pick · x)), seen := true }

/-- Takes the number of a row in a column, if it has one. -/
def take (f : Accumulator → Float → Accumulator) (column : Value) (acc : Accumulator) (row : Row) :
    Accumulator :=
  match Rollup.number? row column with
  | some x => f acc x
  | none => acc

/-- Takes the partial results of a metric in a row. -/
def add (r : Rollup) (aliasName : Value) (acc : Accumulator) (row : Row) : Accumulator :=
  match r with
  | .avg => take addCount (.text (aliasName.toText ++ "__count"))
      (take addTotal (.text (aliasName.toText ++ "__sum")) acc row) row
  | .min => take (addExtreme Rollup.smaller) aliasName acc row
  | .max => take (addExtreme Rollup.greater) aliasName acc row
  | .sum => take addTotal aliasName acc row

/-- The combined result; a metric without a number stays null, and an average without a count is
null. -/
def value (r : Rollup) (acc : Accumulator) : Value :=
  if !acc.seen then .null
  else match r with
    | .avg => if acc.count == 0.0 then .null else .ofFloat (acc.total / acc.count)
    | .min | .max => acc.extreme.elim .null .ofFloat
    | .sum => .ofFloat acc.total

theorem foldl_take (f : Accumulator → Float → Accumulator) :
    rows.foldl (take f column) acc = (Rollup.numbers rows column).foldl f acc := by
  rw [Rollup.numbers, List.foldl_filterMap]
  congr 1
  funext acc row
  rw [take]
  cases Rollup.number? row column <;> rfl

theorem foldl_addTotal (xs : List Float) : xs.foldl addTotal acc =
    { acc with total := xs.foldl (· + ·) acc.total, seen := acc.seen || !xs.isEmpty } := by
  induction xs generalizing acc with
  | nil => simp
  | cons x rest ih => simp [ih, addTotal]

theorem foldl_addExtreme (pick : Float → Float → Float) (xs : List Float) {y : Float}
    (known : acc.extreme = some y) (seen : acc.seen = true) : xs.foldl (addExtreme pick) acc =
      { acc with extreme := some (xs.foldl pick y) } := by
  induction xs generalizing acc y with
  | nil => rw [List.foldl_nil, List.foldl_nil, ← known]
  | cons x rest ih =>
      have step : acc.addExtreme pick x =
          { acc with extreme := some (pick y x) } := by
        rw [addExtreme, known, ← seen]
        rfl
      rw [List.foldl_cons, List.foldl_cons, step]
      exact ih rfl seen

theorem foldl_avg : rows.foldl (add .avg aliasName) acc =
    { acc with
      total := (Rollup.numbers rows (.text (aliasName.toText ++ "__sum"))).foldl (· + ·) acc.total
      count :=
        (Rollup.numbers rows (.text (aliasName.toText ++ "__count"))).foldl (· + ·) acc.count
      seen := acc.seen ||
        !(Rollup.numbers rows (.text (aliasName.toText ++ "__sum"))).isEmpty } := by
  induction rows generalizing acc with
  | nil => simp [Rollup.numbers]
  | cons row rest ih =>
      rw [List.foldl_cons, ih, add, take, take, Rollup.numbers, Rollup.numbers, Rollup.numbers,
        Rollup.numbers, List.filterMap_cons, List.filterMap_cons]
      cases Rollup.number? row (.text (aliasName.toText ++ "__sum")) <;>
        cases Rollup.number? row (.text (aliasName.toText ++ "__count")) <;>
        simp [addTotal, addCount]

theorem value_extreme (pick : Float → Float → Float) :
    value .min (rows.foldl (take (addExtreme pick) aliasName) start) =
      match Rollup.numbers rows aliasName with
      | [] => .null
      | x :: xs => .ofFloat (xs.foldl pick x) := by
  rw [foldl_take]
  cases Rollup.numbers rows aliasName with
  | nil => rfl
  | cons x xs =>
      rw [List.foldl_cons, foldl_addExtreme pick xs rfl rfl]
      rfl

/-- Taking the rows one after the other gives what the rollup combines for all of them. -/
theorem value_foldl (r : Rollup) (aliasName : Value) (rows : List Row) :
    (rows.foldl (add r aliasName) start).value r = r.combine aliasName rows := by
  cases r with
  | avg =>
      rw [foldl_avg, value, Rollup.combine]
      cases Rollup.numbers rows (.text (aliasName.toText ++ "__sum")) <;> rfl
  | sum =>
      have step : rows.foldl (add .sum aliasName) start = _ := foldl_take addTotal
      rw [step, foldl_addTotal, value, Rollup.combine]
      cases Rollup.numbers rows aliasName <;> rfl
  | min => exact value_extreme Rollup.smaller
  | max => exact value_extreme Rollup.greater

/-- Only a metric that no row has a number for is combined to null, averages apart. -/
theorem combine_eq_null (apart : r ≠ .avg) : r.combine aliasName rows = .null ↔
    ∀ row ∈ rows, Rollup.number? row aliasName = none := by
  have set : ∀ x, Value.ofFloat x ≠ .null := by
    intro x
    rw [Value.ofFloat]
    split <;> simp
  rw [← Rollup.numbers_eq_nil]
  cases r with
  | avg => exact absurd rfl apart
  | _ => cases found : Rollup.numbers rows aliasName <;> simp [Rollup.combine, found, set]

end Accumulator
end Datacube
