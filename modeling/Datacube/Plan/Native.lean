import Datacube.Join.Apply
import Datacube.Plan.Select

/-!
# Native plans

When all tables of a request sit on one connection, one driver serves them and that driver can join
where there is more than one, the request is one query.
-/

namespace Datacube

namespace Planner

/-- The driver that can answer for all tables in one query, if there is one. -/
def nativeDriver? (p : Planner) (tables : List Table) : Outcome (Option Driver) :=
  match tables with
  | [] => .ok none
  | first :: rest =>
    if !rest.all (·.connectionKey == first.connectionKey) then .ok none
    else do
      let driver ← p.drivers.forTable first
      let others ← rest.mapM p.drivers.forTable
      if others.all (·.identity == driver.identity) && (rest.isEmpty || driver.joins.isTrue) then
        return some driver
      else return none

/-- Adds a table that a join passes through. -/
def addPathTable (schema : Schema) (tables : Entries String Table) (identifier : String) :
    Outcome (Entries String Table) := do
  if tables.has identifier then return tables
  match ← schema.find identifier .null with
    | some t => return tables.put identifier t
    | none => return tables

def addDimension (driver : Driver) (q : Query) (d : BoundDimension) : Outcome Query := do
  d.check driver.dialect
  d.filter (← q.selectDimension d true)

def nativePlan (p : Planner) (driver : Driver) (r : Resolved) (dimensions : List Dimension) :
    Outcome QueryPlan := do
  let schema ← p.registry.compile
  let joins ← JoinGraph.build ⟨schema, true, p.joinType⟩ r.participants.values dimensions
  let tables ← joins.foldlM (fun acc s => addPathTable schema acc s.targetId) r.participants
  let q ← driver.queryFor r.primary
  let q ← q.addAll joins.steps
  let q ← r.dimensions.foldlM (addDimension driver) q
  let q ← r.aggregations.values.foldlM (·.selectMetric p.renderings ·) q
  return {
    primary := r.primary.name, tables, sources := r.sources, aggregations := r.aggregations
    dimensions := r.dimensionAliases
    joinPlan := if joins.isEmpty then .empty else .database joins
    query := some q, computed := r.computed }

end Planner
end Datacube
