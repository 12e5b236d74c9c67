import Datacube.Text.Cut
import Datacube.Value.Number
import Datacube.Value.Order

/-!
# Aggregations

An aggregation reads one column, named by a reference `table.column` with an optional provider in
front, and carries the alias of its result column. Its rollup says how partial results of several
tables are combined.
-/

namespace Datacube
open Text

/-- What an aggregation computes. -/
inductive AggregationKind where
  | sum
  | count
  | avg
  | min
  | max
  | percentile
  deriving DecidableEq, Repr

/-- How partial results are combined; averages are combined from their sums and counts. -/
inductive Rollup where
  | sum
  | avg
  | min
  | max
  deriving DecidableEq, Repr

namespace Rollup

def name : Rollup → String
  | sum => "sum"
  | avg => "avg"
  | min => "min"
  | max => "max"

/-- The rollup of a name; every other name adds up. -/
def ofName (s : String) : Rollup :=
  match s with
  | "avg" => avg
  | "min" => min
  | "max" => max
  | _ => sum

end Rollup

namespace AggregationKind

def all : List AggregationKind := [sum, count, avg, min, max, percentile]

def name : AggregationKind → String
  | sum => "sum"
  | count => "count"
  | avg => "avg"
  | min => "min"
  | max => "max"
  | percentile => "percentile"

def ofName? (s : String) : Option AggregationKind := all.find? (·.name == s)

/-- Counts of parts add up; percentiles cannot be combined. -/
def rollup? : AggregationKind → Option Rollup
  | sum | count => some .sum
  | avg => some .avg
  | min => some .min
  | max => some .max
  | percentile => none

end AggregationKind

/-- An aggregation over a column. The percentile is meant for that kind only. -/
structure Aggregation where
  kind : AggregationKind
  reference : String
  explicitAlias : Value
  percentile : Float

namespace Aggregation

/-- An aggregation over a reference, which must be a text that holds a point. What counts as absent
and a list are refused like a text without one. -/
def make (kind : AggregationKind) (reference : Value) : Outcome Aggregation :=
  let refusal : Outcome Aggregation := refuse (.invalidAggregation (
    "Aggregation reference must be 'table.column' or 'provider:table.column', got '" ++
      reference.toText ++ "'"))
  match reference with
  | .text s => if s.toList.contains '.' then .ok ⟨kind, s, .null, 0.5⟩ else refusal
  | .list items => if items.any (·.isText ".") then fail .noSuchMember else refusal
  | .object fields => if fields.any (·.1.isText ".") then fail .noSuchMember else refusal
  | v => if v.isTrue then fail .wrongType else refusal

/-- Sets the percentile, which must lie between zero and one. -/
def withPercentile (a : Aggregation) (p : Value) : Outcome Aggregation := do
  if (← p.order (.int 0)) = .less || (← p.order (.int 1)) = .greater then
    refuse (.invalidAggregation ("Percentile must be between 0 and 1. Got: " ++ p.toText))
  match ← p.toNumber with
  | some x => return { a with percentile := x }
  | none => return { a with percentile := if p.isTrue then 1.0 else 0.0 }

def withAlias (a : Aggregation) (name : Value) : Aggregation := { a with explicitAlias := name }

def provider? (a : Aggregation) : Option String := (splitFirst? ':' a.reference).map (·.1)

def localReference (a : Aggregation) : String :=
  match splitFirst? ':' a.reference with
  | some (_, rest) => rest
  | none => a.reference

/-- The table of the reference: everything before the last point. -/
def table (a : Aggregation) : String :=
  match splitLast? '.' a.localReference with
  | some (table, _) => table
  | none => a.localReference

/-- The column of the reference; a point in the provider alone leaves none. -/
def column? (a : Aggregation) : Option String := (splitLast? '.' a.localReference).map (·.2)

/-- The alias of the result column: the explicit one, else the kind and the reference with
underscores for its separators. -/
def aliasName (a : Aggregation) : Value :=
  a.explicitAlias.orElse
    (a.kind.name ++ "_" ++ substitute '.' '_' (substitute ':' '_' a.reference))

/-- How partial results are combined. -/
def rollup? (a : Aggregation) : Option Rollup := a.kind.rollup?

/-- The aliases of the partial sum and count of an average. -/
def partialAliases (a : Aggregation) : String × String :=
  (a.aliasName.toText ++ "__sum", a.aliasName.toText ++ "__count")

/-- The same aggregation over another reference, under the given alias or the present one. -/
def withReference (a : Aggregation) (reference name : Value) : Outcome Aggregation := do
  let copy ← make a.kind reference
  return { copy with percentile := a.percentile, explicitAlias := name.orElse a.aliasName }

def document (a : Aggregation) : Value :=
  .record ([("kind", .text a.kind.name), ("reference", .text a.reference), ("alias", a.aliasName),
    ("rollup", .ofText? (a.rollup?.map (·.name)))] ++
    (if a.kind = .percentile then [("percentile", .float a.percentile)] else []))

def title : AggregationKind → String
  | .sum => "Sum"
  | .count => "Count"
  | .avg => "Avg"
  | .min => "Min"
  | .max => "Max"
  | .percentile => "Percentile"

def label (a : Aggregation) : String :=
  title a.kind ++ "(" ++ quotedText a.reference ++ ", alias=" ++ a.aliasName.quoted ++ ")"

end Aggregation
end Datacube
