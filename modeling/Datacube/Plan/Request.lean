import Datacube.Metric.Rendering
import Datacube.Plan.Basic
import Datacube.Plan.Drivers
import Datacube.Plan.Granularity
import Datacube.Schema.Registry

/-!
# Resolving requests

A request asks for metrics by dimensions. Resolving it finds the table and column of every
aggregation, the table that every dimension is read from, and the place of every computed metric
among the others. A dimension that names no table is read from the first metric table that declares
it, and from the primary table when none does.
-/

namespace Datacube

/-- A requested metric: an aggregation, one with a known source, or a computed metric. -/
inductive RequestedMetric where
  | aggregation (a : Aggregation)
  | sourced (source : MetricSource) (a : Aggregation)
  | computed (m : Computed)

/-- What plans are made from: the schema, the drivers, the renderings of aggregations, and the type
that joins get. -/
structure Planner where
  registry : Registry
  drivers : Drivers
  renderings : Renderings
  joinType : Value

/-- A requested dimension with the table and column that it is read from. -/
structure BoundDimension where
  dimension : Dimension
  table : Table
  column : Value

def BoundDimension.aliasName (d : BoundDimension) : Value := d.dimension.aliasName

/-- A request whose metrics and dimensions are resolved. -/
structure Resolved where
  primary : Table
  sources : Entries Value MetricSource
  aggregations : Entries Value Aggregation
  metricTables : Entries String Table
  dimensions : List BoundDimension
  computed : List ComputedPlan

namespace Resolved

/-- The tables that take part: those of the metrics, then the others that dimensions are read
from. -/
def participants (r : Resolved) : Entries String Table :=
  r.dimensions.foldl (fun acc d => acc.putNew d.table.identifier d.table) r.metricTables

def dimensionAliases (r : Resolved) : List Value := r.dimensions.map (·.aliasName)

end Resolved

namespace Planner

/-! ## Aggregations -/

/-- The source of an aggregation. Computed metrics have none. -/
def source? (p : Planner) : RequestedMetric → Option (Outcome (MetricSource × Aggregation))
  | .aggregation a => some (do return (← p.registry.metricSource a.reference, a))
  | .sourced source a => some (.ok (source, a))
  | .computed _ => none

def computedOf (metrics : List RequestedMetric) : List Computed :=
  metrics.filterMap fun
    | .computed m => some m
    | _ => none

/-! ## Computed metrics -/

/-- The tables that the aggregations below a list of metrics read. Every metric is followed once, so
the number of all dependencies bounds the steps. -/
def tablesBelow (computed : Entries Value Computed) (tables : Entries Value String) :
    Nat → List Value → List Value → List String
  | 0, _, _ => []
  | _ + 1, _, [] => []
  | fuel + 1, seen, key :: rest =>
    if seen.contains key then tablesBelow computed tables fuel seen rest
    else match tables.get? key, computed.get? key with
      | some table, _ => table :: tablesBelow computed tables fuel (key :: seen) rest
      | none, some m => tablesBelow computed tables fuel (key :: seen) (m.dependencies ++ rest)
      | none, none => tablesBelow computed tables fuel (key :: seen) rest

/-- How many dependencies a list of computed metrics declares. -/
def dependencyCount (computed : List Computed) : Nat :=
  computed.foldl (fun count m => count + m.dependencies.length) 0

/-- The table of a computed metric: the declared one, else the only one that the aggregations below
it read. -/
def computedTable (p : Planner) (computed : Entries Value Computed)
    (tables : Entries Value String) (m : Computed) : Outcome Value := do
  if m.table.isTrue then return .text (← p.registry.named m.table).identifier
  let fuel := m.dependencies.length + dependencyCount computed.values + 1
  match tablesBelow computed tables fuel [] m.dependencies with
  | [] => return .null
  | table :: rest => return if rest.all (· == table) then .text table else .null

def checkDependencies (computed : Entries Value Computed) (available : List Value) :
    Outcome Unit :=
  computed.forM fun (aliasName, m) => m.dependencies.forM fun key =>
    if available.contains key then .ok () else refuse (.unknownDependency aliasName key available)

/-- The computed metrics in the order of evaluation, with their levels and strategies. -/
def planComputed (p : Planner) (computed : List Computed) (sources : Entries Value MetricSource) :
    Outcome (List ComputedPlan) := do
  if computed.isEmpty then return []
  if !computed.all (·.aliasName.isKey) then fail .wrongType
  let byAlias : Entries Value Computed := Entries.ofPairs (computed.map fun m => (m.aliasName, m))
  checkDependencies byAlias (sources.keys ++ byAlias.keys)
  let tables : Entries Value String := sources.mapValues (·.table.identifier)
  -- Aggregations are nodes below the computed metrics and depend on nothing.
  let below : List (MetricNode (Option Computed)) :=
    tables.map fun (aliasName, table) => ⟨aliasName, .text table, [], none⟩
  let above ← byAlias.mapM fun (aliasName, m) => do
    return (⟨aliasName, ← p.computedTable byAlias tables m, m.dependencies, some m⟩ :
      MetricNode (Option Computed))
  let nodes := below ++ above
  let ordered ← MetricNode.resolve nodes
  let levels ← MetricNode.levels nodes
  let levelOf : Entries Value Nat :=
    Entries.ofPairs (levels.flatMap fun (l, group) => group.map fun n => (n.key, l))
  let (database, software) ← MetricNode.split nodes
  let strategyOf : Entries Value Strategy := Entries.ofPairs (
    (database.map fun n => (n.key, .database)) ++ software.map fun n => (n.key, .software))
  return ordered.filterMap fun n => n.metric.map fun m =>
    ⟨n.key, m, (levelOf.get? n.key).getD 0, (strategyOf.get? n.key).getD .software⟩

/-! ## Dimensions -/

def bindDimension (p : Planner) (metricTables : List Table) (primary : Table) (d : Dimension) :
    Outcome BoundDimension :=
  match d.table? with
  | some reference => do return ⟨d, ← p.registry.table reference, d.column⟩
  | none =>
    -- Matches are kept by bare names: of two tables of one name the last one answers for both.
    let matching := d.resolve metricTables
    match metricTables.findSome? fun t => (matching.get? t.name).map fun m => (t, m.column) with
    | some (t, column) => .ok ⟨d, t, column⟩
    | none => .ok ⟨d, primary, d.column⟩

/-! ## Requests -/

/-- Resolves a request. The table of the first aggregation is the primary one. -/
def resolve (p : Planner) (metrics : List RequestedMetric) (dimensions : List Dimension) :
    Outcome Resolved :=
  -- Computed metrics alone have nothing to be computed from.
  match metrics.filterMap p.source? with
  | [] => refuse .noMetrics
  | first :: rest => do
    let first ← first
    let pairs := first :: (← rest.mapM id)
    let primary := first.1.table
    if !pairs.all (·.2.aliasName.isKey) then fail .wrongType
    let sources := Entries.ofPairs (pairs.map fun (s, a) => (a.aliasName, s))
    let aggregations := Entries.ofPairs (pairs.map fun (_, a) => (a.aliasName, a))
    let metricTables := pairs.foldl (fun (acc : Entries String Table) (s, _) =>
      acc.putNew s.table.identifier s.table) []
    let computed ← p.planComputed (computedOf metrics) sources
    let bound ← dimensions.mapM (p.bindDimension metricTables.values primary)
    return ⟨primary, sources, aggregations, metricTables, bound, computed⟩

end Planner
end Datacube
