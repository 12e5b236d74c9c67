import Datacube.Merge.Filter
import Datacube.Plan.Request

/-!
# Selecting dimensions

How a query selects, groups and filters by a dimension. A time dimension is bucketed by its
granularity; every other dimension is a plain column.
-/

namespace Datacube

namespace BoundDimension

/-- The column that the dimension is read from, with its table. -/
def reference (d : BoundDimension) : String := d.table.label ++ "." ++ d.column.toText

/-- Checks the granularity against a dialect and the dimension that the table declares. -/
def check (d : BoundDimension) (dialect : Dialect) : Outcome Unit :=
  d.dimension.checkGranularity (d.dimension.resolve [d.table]).values (some dialect)

/-- The steps that select and group by the dimension, and order by it if asked to. -/
def steps (d : BoundDimension) (dialect : Dialect) (ordered : Bool) : Outcome (List QueryStep) :=
  match d.dimension.detail with
  | .time granularity _ => do
    let bucket ← dialect.timeBucket d.table.name d.column granularity
    let aliasName ← dialect.wrapValue d.aliasName
    return [.selectRaw (.text (bucket ++ " AS " ++ aliasName)), .groupRaw bucket] ++
      (if ordered then [.orderRaw bucket] else [])
  | _ =>
    .ok ([.select [.text (d.reference ++ " as " ++ d.aliasName.toText)], .group d.reference] ++
      (if ordered then [.order d.reference "asc"] else []))

def filter (d : BoundDimension) (q : Query) : Outcome Query := do
  let filters := d.dimension.filters
  if !filters.isTrue then return q
  let q ← match ← filters.filterUnder "only" with
    | some values => do q.add (.filterIn d.reference (← values.toItems))
    | none => pure q
  let q ← match ← filters.filterUnder "except" with
    | some values => do q.add (.filterOut d.reference (← values.toItems))
    | none => pure q
  match ← filters.filterUnder "where" with
  | some (.object fields) =>
    let operator ← Value.required fields "operator"
    q.add (.filter d.reference operator (← Value.required fields "value"))
  | some _ => fail .wrongType
  | none => return q

end BoundDimension

namespace Query

def selectDimension (q : Query) (d : BoundDimension) (ordered : Bool) : Outcome Query := do
  q.addAll (← d.steps q.driver.dialect ordered)

/-- Selects a column under an alias and groups by it. -/
def selectKey (q : Query) (reference aliasName : String) : Outcome Query :=
  q.addAll [.select [.text (reference ++ " as " ++ aliasName)], .group reference]

def selectMetric (q : Query) (renderings : Renderings) (a : Aggregation) : Outcome Query := do
  q.add (.selectRaw (.text (← renderings.render a q.driver.dialect)))

end Query
end Datacube
