import Datacube.Plan.Run
import Datacube.Script.Dimension
import Datacube.Script.Metric
import Datacube.Script.Query
import Datacube.Script.Table

/-!
# Requests and plans in scripts

A request is declared by its metrics and dimensions; the drivers that answer it by the connections
that they are registered for; a merge by its relations, dimensions and rollups.
-/

namespace Datacube

/-- The metric of a request. An aggregation may be declared with the reference of its source. -/
def RequestedMetric.ofScript (r : Registry) (v : Value) : Outcome RequestedMetric :=
  if (v.field? "computed").isSome then RequestedMetric.computed <$> Computed.ofScript v
  else do
    let a ← Aggregation.ofScript v
    match v.field? "source" with
    | some (.text reference) => return .sourced (← r.metricSource reference) a
    | some _ => fail .wrongType
    | none => return .aggregation a

namespace Drivers

def named (drivers : Entries Value Driver) (v : Value) : Outcome Driver :=
  if !v.isKey then fail .wrongType
  else match drivers.get? v with
    | some d => .ok d
    | none => fail .missingKey

/-- Registers a named driver for a connection, of a provider if one is given. -/
def withEntry (drivers : Entries Value Driver) (ds : Drivers) (v : Value) : Outcome Drivers := do
  let connection ← Value.required v.members "connection"
  ds.register connection (← named drivers (← Value.required v.members "driver"))
    (v.member "provider")

/-- Drivers by connections as a script registers them among named ones. Without a script the driver
named `main` answers for every connection. -/
def ofScript (drivers : Entries Value Driver) (v : Value) : Outcome Drivers := do
  if v.isNull then return ⟨[], drivers.get? "main"⟩
  let fallback ← match v.member "default" with
    | .null => pure none
    | id => some <$> named drivers id
  (v.member "register").elements.foldlM (withEntry drivers) ⟨[], fallback⟩

end Drivers

/-- The relation between two table results that a script declares. -/
def JoinRelation.ofScript (v : Value) : Outcome JoinRelation := do
  let source ← Value.required v.members "from"
  let target ← Value.required v.members "to"
  return ⟨v.memberOr "key" (source.toText ++ "->" ++ target.toText), source, target,
    v.memberOr "type" "left", v.memberOr "from_alias" "", v.memberOr "to_alias" ""⟩

/-- The merge of table results that a script declares. -/
def MergePlan.ofScript (v : Value) : Outcome MergePlan := do
  let names (key : String) := (v.member key).elements
  return {
    primary := v.member "primary"
    relations := ← (v.member "relations").elements.mapM JoinRelation.ofScript
    dimensions := names "dimensions", metrics := names "metrics"
    rollups := (v.member "rollups").members.mapValues fun r => Rollup.ofName (r.textOr "sum")
    filters := v.memberOr "filters" (.object [])
    joinAliases := names "join_aliases" }

/-- Computed metrics that scripts declare, in the order of evaluation. -/
def ComputedPlan.ofScripts (specs : Value) : Outcome (List ComputedPlan) :=
  specs.elements.mapM fun v => do
    let m ← Computed.ofScript v
    return ⟨m.aliasName, m, 0, .software⟩

end Datacube
