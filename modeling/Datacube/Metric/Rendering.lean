import Datacube.Dialect
import Datacube.Metric.Aggregation

/-!
# Rendering aggregations

A table of renderings says how each kind of aggregation is written for each backend. A backend
without an entry uses the entry for `default`.
-/

namespace Datacube
open Text

/-- A way to write an aggregation: a function over the column, the percentile forms of three
backends, ClickHouse's count, or a template with places for reference, alias and quoted
reference. -/
inductive Rendering where
  | function (name : String)
  | countRows
  | percentileWithin
  | percentileFunction
  | percentileParameter
  | template (text : String)

namespace Rendering

/-- Replaces every occurrence of a phrase. The fuel is the length of the text. -/
def replaceWithin (phrase replacement : List Char) : Nat → List Char → List Char
  | 0, chars => chars
  | fuel + 1, chars =>
    match chars with
    | [] => []
    | c :: rest => match dropStart? phrase chars with
      | some after => replacement ++ replaceWithin phrase replacement fuel after
      | none => c :: replaceWithin phrase replacement fuel rest

def replaceAll (phrase replacement s : String) : String :=
  String.ofList (replaceWithin phrase.toList replacement.toList s.length s.toList)

def render (r : Rendering) (a : Aggregation) (d : Dialect) : Outcome String := do
  match r with
  | function name =>
    let column ← d.wrap a.localReference
    let aliasName ← d.wrapValue a.aliasName
    return name ++ "(" ++ column ++ ") AS " ++ aliasName
  | countRows =>
    let aliasName ← d.wrapValue a.aliasName
    match a.column? with
    | none => fail .outOfRange
    | some "*" => return "count() AS " ++ aliasName
    | some _ => return "count(" ++ (← d.wrap a.localReference) ++ ") AS " ++ aliasName
  | percentileWithin =>
    let column ← d.wrap a.localReference
    let aliasName ← d.wrapValue a.aliasName
    return "PERCENTILE_CONT(" ++ Number.floatText a.percentile ++ ") WITHIN GROUP (ORDER BY " ++
      column ++ ") AS " ++ aliasName
  | percentileFunction =>
    let column ← d.wrap a.localReference
    let aliasName ← d.wrapValue a.aliasName
    return "quantile_cont(" ++ column ++ ", " ++ Number.floatText a.percentile ++ ") AS " ++
      aliasName
  | percentileParameter =>
    let column ← d.wrap a.localReference
    let aliasName ← d.wrapValue a.aliasName
    return "quantile(" ++ Number.floatText a.percentile ++ ")(" ++ column ++ ") AS " ++ aliasName
  | template text =>
    let column ← d.wrap a.localReference
    match a.aliasName with
    | .text name =>
      -- The places are filled in turn, so one inside a reference or an alias is filled as well.
      return replaceAll "\x7bwrapped\x7d" column
        (replaceAll "\x7balias\x7d" name (replaceAll "\x7bref\x7d" a.localReference text))
    | _ => fail .wrongType

end Rendering

/-- The renderings of every kind by backend; an entry without rendering counts as missing when an
aggregation is rendered. -/
abbrev Renderings := Entries String (Entries String (Option Rendering))

namespace Renderings

/-- The backend whose entry serves the backends without one. -/
def anyBackend : String := "default"

/-- Adds the renderings of a kind; kinds are written in lower case. -/
def register (table : Renderings) (kind : String) (entries : List (String × Option Rendering)) :
    Renderings :=
  table.put (lower kind) (((table.get? (lower kind)).getD []).putAll entries)

def holds (table : Renderings) (kind backend : String) : Bool :=
  ((table.get? (lower kind)).getD []).has backend

def find? (table : Renderings) (kind backend : String) : Option Rendering :=
  let entries := (table.get? kind).getD []
  ((entries.get? backend).join).or (entries.get? anyBackend).join

def render (table : Renderings) (a : Aggregation) (d : Dialect) : Outcome String :=
  match table.find? a.kind.name d.name with
  | some rendering => rendering.render a d
  | none => refuse (.compilerNotFound a.kind.name d.name)

def builtin : Renderings :=
  let functions :=
    [("sum", "SUM"), ("count", "COUNT"), ("avg", "AVG"), ("min", "MIN"), ("max", "MAX")]
  let table : Renderings := functions.foldl
    (fun table (kind, name) => table.register kind [(anyBackend, some (.function name))]) []
  (table.register "count" [("clickhouse", some .countRows)]).register "percentile"
    [("postgres", some .percentileWithin), ("duckdb", some .percentileFunction),
     ("clickhouse", some .percentileParameter)]

end Renderings
end Datacube
