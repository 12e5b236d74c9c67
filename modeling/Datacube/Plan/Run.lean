import Datacube.Plan.Software

/-!
# Running plans

A plan is run by answering its queries in order and finishing their results: those of a software
plan are merged, and computed metrics are evaluated row by row.
-/

namespace Datacube

namespace ComputedPlan

/-- Adds the value of a computed metric to a row. -/
def extend (row : Row) (p : ComputedPlan) : Outcome Row := do
  let v ← p.metric.onRow row
  return row.put p.aliasName (← v.normalizeNumber)

/-- Adds the values of computed metrics to every row, each of which may read those before it. -/
def extendAll (computed : List ComputedPlan) (rows : List Row) : Outcome (List Row) :=
  rows.mapM fun row => computed.foldlM extend row

end ComputedPlan

namespace QueryPlan

/-- The queries of a plan in the order in which they are answered. -/
def queries (p : QueryPlan) : Outcome (List Query) :=
  match p.joinPlan, p.query with
  | .software plan, _ => .ok (plan.tables.values.map (·.query))
  | _, some q => .ok [q]
  | joinPlan, none => refuse (.planUnsupported joinPlan.kind)

/-- The rows of a plan before computed metrics, from the results of its queries. -/
def rows (p : QueryPlan) (results : List (List Row)) : Outcome (List Row) :=
  match p.joinPlan with
  | .software plan => plan.run (plan.tables.keys.zip results)
  | _ => .ok (results.headD [])

/-- The answer to a request from the results of the queries. -/
def finish (p : QueryPlan) (results : List (List Row)) : Outcome (List Row) := do
  ComputedPlan.extendAll p.computed (← p.rows results)

end QueryPlan
end Datacube
