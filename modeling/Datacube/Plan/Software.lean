import Datacube.Plan.Native

/-!
# Software plans

When no single query can answer a request, every table is queried on its own. Each query selects the
dimensions of its table, the keys by which its rows are merged with others, and the partial results
of its metrics. Merging needs a rollup for every metric, so percentiles are refused, and so are
many-to-many relations, whose pivot table no query reads.
-/

namespace Datacube
open Text

/-- What the queries of the tables select besides their own dimensions, and the relations by which
their results are merged: key columns by alias, and dimensions that serve as keys. -/
structure MergeKeys where
  columns : Entries String (Entries String Value)
  dimensions : Entries String (List BoundDimension)
  relations : List JoinRelation
  aliases : List Value

namespace MergeKeys

def none : MergeKeys := ⟨[], [], [], []⟩

def addColumn (k : MergeKeys) (identifier aliasName : String) (column : Value) : MergeKeys :=
  { k with
    columns := k.columns.put identifier
      (((k.columns.get? identifier).getD []).put aliasName column)
    aliases := if k.aliases.contains (.text aliasName) then k.aliases
      else k.aliases ++ [.text aliasName] }

/-- Adds a dimension that serves as key of a table. -/
def addDimension (k : MergeKeys) (identifier : String) (d : BoundDimension) : MergeKeys :=
  { k with dimensions := k.dimensions.push identifier d }

/-- Adds a relation between two named tables. -/
def addRelation (k : MergeKeys) (source target type sourceAlias targetAlias : Value) : MergeKeys :=
  { k with relations := k.relations ++
      [⟨.text (source.toText ++ "->" ++ target.toText), source, target, type, sourceAlias,
        targetAlias⟩] }

end MergeKeys

namespace Planner

/-- The names by which the tables of a software plan are told apart: the bare name where it is the
only one, else the identifier. -/
def participantNames (tables : Entries String Table) : Entries String Value :=
  tables.map fun (identifier, t) =>
    (identifier, if Schema.owners tables.values t.name == 1 then t.name else identifier)

def keyAlias (name column : Value) : Outcome String := do
  return substitute ':' '_' (← name.onlyText) ++ "__" ++ column.toText

/-- The columns that a relation compares; none for a cross join without keys. -/
def joinColumns (r : Relation) : Outcome (Option (Value × Value)) :=
  match r.type with
  | .belongsTo | .morphTo => .ok (some (r.key "foreign", r.key "owner"))
  | .hasMany | .hasOne | .morphMany => .ok (some (r.key "local", r.key "foreign"))
  | .crossJoin =>
    .ok (if (r.key "left").isTrue && (r.key "right").isTrue then
      some (r.key "left", r.key "right") else .none)
  | .dimension => .ok (some (r.key "left", r.key "right"))
  | .belongsToMany => refuse (.relationUnhandled r.type.label r.name)

/-- Adds a requested dimension as key of a table unless the table selects it anyway. -/
def addDimensionKey (dimensions : List BoundDimension) (requested : Dimension) (aliasName : Value)
    (t : Table) (column : Value) (k : MergeKeys) : MergeKeys :=
  if dimensions.any fun d => d.aliasName == aliasName && d.table.identifier == t.identifier then k
  else k.addDimension t.identifier ⟨requested, t, column⟩

/-- Adds the keys of a join, and the relation between its tables. -/
def addJoin (tables : Entries String Table) (names : Entries String Value)
    (dimensions : List BoundDimension) (k : MergeKeys) (s : JoinStep) : Outcome MergeKeys := do
  let source := (names.get? s.sourceId).getD s.sourceId
  let target := (names.get? s.targetId).getD s.targetId
  match ← joinColumns s.relation with
  | none => return k.addRelation source target s.type "" ""
  | some (own, theirs) =>
    if s.relation.type = .dimension then
      let aliasName := s.relation.key "alias"
      match dimensions.find? (·.aliasName == aliasName), tables.get? s.sourceId,
          tables.get? s.targetId with
      | none, _, _ => fail .noMatch
      | some d, some a, some b =>
        -- Each side reads the requested dimension from a column of its own.
        let k := addDimensionKey dimensions d.dimension aliasName a own k
        let k := addDimensionKey dimensions d.dimension aliasName b theirs k
        return k.addRelation source target s.type aliasName aliasName
      | _, _, _ => fail .missingKey
    else
      let sourceAlias ← keyAlias source own
      let targetAlias ← keyAlias target theirs
      let k := (k.addColumn s.sourceId sourceAlias own).addColumn s.targetId targetAlias theirs
      return k.addRelation source target s.type sourceAlias targetAlias

/-- The aggregations whose results are combined by the rollup of one: sum and count of an average,
and every other one itself. -/
def partials (a : Aggregation) : List Aggregation :=
  if a.kind = .avg then
    [⟨.sum, a.reference, a.partialAliases.1, 0.5⟩, ⟨.count, a.reference, a.partialAliases.2, 0.5⟩]
  else [a]

/-- Selects a dimension after checking its granularity. -/
def selectOwned (q : Query) (d : BoundDimension) : Outcome Query := do
  d.check q.driver.dialect
  q.selectDimension d false

def tableQuery (p : Planner) (r : Resolved) (k : MergeKeys) (identifier : String) (t : Table) :
    Outcome Query := do
  let driver ← p.drivers.forTable t
  let q ← driver.queryFor t
  let q ← (r.dimensions.filter (·.table.identifier == identifier)).foldlM selectOwned q
  let q ← ((k.dimensions.get? identifier).getD []).foldlM (·.selectDimension · false) q
  let q ← ((k.columns.get? identifier).getD []).foldlM (fun q (aliasName, column) =>
    q.selectKey (t.label ++ "." ++ column.toText) aliasName) q
  (r.aggregations.filter fun (aliasName, _) =>
      (r.sources.get? aliasName).any (·.table.identifier == identifier)).foldlM (fun q (_, a) =>
    (partials a).foldlM (·.selectMetric p.renderings ·) q) q

/-- Refuses aggregations that cannot be combined. -/
def checkRollups (aggregations : Entries Value Aggregation) : Outcome Unit :=
  aggregations.forM fun (aliasName, a) =>
    if a.rollup?.isSome then .ok () else refuse (.aggregationUnmergeable a.kind.name aliasName)

def dimensionFilters (dimensions : List BoundDimension) : Outcome Value := do
  let filters ← (dimensions.filter (·.dimension.hasFilters)).mapM fun d => do
    let fields ← d.dimension.filters.toFields
    if d.aliasName.isKey then return (d.aliasName, Value.object fields) else fail .wrongType
  return .object (Entries.ofPairs filters)

def softwarePlan (p : Planner) (r : Resolved) (dimensions : List Dimension) :
    Outcome QueryPlan := do
  checkRollups r.aggregations
  let schema ← p.registry.compile
  let joins ← JoinGraph.build ⟨schema, false, p.joinType⟩ r.participants.values dimensions
  let tables ← joins.foldlM (fun acc s => do
    addPathTable schema (← addPathTable schema acc s.sourceId) s.targetId) r.participants
  -- Tables on the way are queried as well: their keys carry the merge from one side to the other.
  let names := participantNames tables
  let keys ← joins.foldlM (addJoin tables names r.dimensions) .none
  let nameOf (identifier : String) : Value := (names.get? identifier).getD identifier
  let plans ← tables.foldlM (fun (acc : Entries Value TablePlan) (identifier, t) => do
    let query ← p.tableQuery r keys identifier t
    return acc.put (nameOf identifier) ⟨t, query, identifier == r.primary.identifier⟩) []
  let merge : MergePlan := {
    primary := nameOf r.primary.identifier
    relations := keys.relations
    dimensions := r.dimensionAliases
    metrics := r.aggregations.keys
    rollups := r.aggregations.filterMap fun (aliasName, a) =>
      a.rollup?.map fun rollup => (aliasName, rollup)
    filters := ← dimensionFilters r.dimensions
    joinAliases := keys.aliases }
  return {
    primary := r.primary.name, tables, sources := r.sources, aggregations := r.aggregations
    dimensions := r.dimensionAliases, joinPlan := .software ⟨merge, plans⟩
    query := Option.none, computed := r.computed }

/-! ## Plans -/

/-- The plan of a request: one query where that is possible, else one per table. -/
def plan (p : Planner) (metrics : List RequestedMetric) (dimensions : List Dimension) :
    Outcome QueryPlan := do
  let r ← p.resolve metrics dimensions
  match ← p.nativeDriver? r.participants.values with
  | some driver => p.nativePlan driver r dimensions
  | none => p.softwarePlan r dimensions

end Planner
end Datacube
