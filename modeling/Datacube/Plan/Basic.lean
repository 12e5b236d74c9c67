import Datacube.Join.Graph
import Datacube.Merge.Group
import Datacube.Metric.Computed
import Datacube.Plan.Dependency
import Datacube.Query.Build

/-!
# Query plans

A plan says how a request is answered. A native plan is one query, over a single table or over
tables that the backend joins. A software plan is one query per table and the merge of their
results. Computed metrics are evaluated on the result rows in the order in which the plan lists
them.
-/

namespace Datacube

/-- The query of one table in a software plan. -/
structure TablePlan where
  table : Table
  query : Query
  isPrimary : Bool

/-- One query per table, and the merge of their results. -/
structure SoftwarePlan extends MergePlan where
  tables : Entries Value TablePlan

/-- How the tables of a request come together. -/
inductive JoinPlan where
  | empty
  | database (joins : JoinGraph)
  | software (plan : SoftwarePlan)

/-- A computed metric of a plan. -/
structure ComputedPlan where
  aliasName : Value
  metric : Computed
  level : Nat
  strategy : Strategy

/-- How a request is answered: the tables by identifier, the metrics by alias, and the one query of
a native plan. -/
structure QueryPlan where
  primary : Value
  tables : Entries String Table
  sources : Entries Value MetricSource
  aggregations : Entries Value Aggregation
  dimensions : List Value
  joinPlan : JoinPlan
  query : Option Query
  computed : List ComputedPlan

def TablePlan.document (p : TablePlan) : Outcome Value := do
  return .record [("table", .text p.table.identifier), ("driver", p.query.driver.name),
    ("isPrimary", .bool p.isPrimary), ("sql", .text (← p.query.text))]

def SoftwarePlan.document (p : SoftwarePlan) : Outcome Value := do
  let tables ← p.tables.mapM fun e => do return (e.1, ← e.2.document)
  return .record [("type", "software"), ("primaryTable", p.primary),
    ("tablePlans", .object tables), ("relations", .list (p.relations.map (·.document))),
    ("dimensionOrder", .list p.dimensions), ("metricAliases", .list p.metrics),
    ("metricRollups", .object (p.rollups.mapValues fun r => .text r.name)),
    ("joinAliases", .list p.joinAliases)]

namespace JoinPlan

/-- How the tables come together, as a document. -/
def document : JoinPlan → Outcome Value
  | empty => .ok (.record [("type", "empty")])
  | database joins => .ok joins.document
  | software plan => plan.document

def kind : JoinPlan → String
  | empty => "EmptyJoinPlan"
  | database _ => "DatabaseJoinPlan"
  | software _ => "SoftwareJoinPlan"

def isEmpty : JoinPlan → Bool
  | empty => true
  | database joins => joins.isEmpty
  | software _ => false

end JoinPlan

def ComputedPlan.document (p : ComputedPlan) : Value :=
  .record [("alias", p.aliasName), ("expression", .text p.metric.expression),
    ("dependencies", .list p.metric.dependencies), ("level", .int p.level),
    ("strategy", .text p.strategy.name)]

namespace QueryPlan

/-- The text of the one query of a native plan. -/
def sql (p : QueryPlan) : Outcome Value :=
  match p.query with
  | some q => do return .text (← q.text)
  | none => .ok .null

def document (p : QueryPlan) : Outcome Value := do
  return .record [("primaryTable", p.primary), ("tables", .texts p.tables.keys),
    ("metrics", .object (p.sources.mapValues fun s => .text s.key)),
    ("dimensions", .list p.dimensions), ("joinPlan", ← p.joinPlan.document),
    ("computed", .list (p.computed.map (·.document))), ("sql", ← p.sql)]

/-- Whether the results of several queries are merged. -/
def isSoftware (p : QueryPlan) : Bool :=
  match p.joinPlan with
  | .software _ => true
  | _ => false

/-- Whether the backend joins tables. -/
def isDatabase (p : QueryPlan) : Bool :=
  match p.joinPlan with
  | .database _ => true
  | _ => false

end QueryPlan
end Datacube
