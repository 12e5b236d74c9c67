import Datacube.Value.Reading

/-!
# Relations

A relation is a directed edge from the table that declares it to a target table. The keys name the
columns that the join compares, by role: `foreign` and `owner`, `local` and `foreign`, `left` and
`right`, and the pivot's `foreign` and `related`.
-/

namespace Datacube

/-- The kinds of relations. -/
inductive RelationType where
  | belongsTo
  | hasMany
  | hasOne
  | belongsToMany
  | morphTo
  | morphMany
  | crossJoin
  | dimension
  deriving DecidableEq, Repr

namespace RelationType

def all : List RelationType :=
  [belongsTo, hasMany, hasOne, belongsToMany, morphTo, morphMany, crossJoin, dimension]

def name : RelationType → String
  | belongsTo => "belongs_to"
  | hasMany => "has_many"
  | hasOne => "has_one"
  | belongsToMany => "belongs_to_many"
  | morphTo => "morph_to"
  | morphMany => "morph_many"
  | crossJoin => "cross_join"
  | dimension => "dimension"

def label : RelationType → String
  | belongsTo => "RelationType.BELONGS_TO"
  | hasMany => "RelationType.HAS_MANY"
  | hasOne => "RelationType.HAS_ONE"
  | belongsToMany => "RelationType.BELONGS_TO_MANY"
  | morphTo => "RelationType.MORPH_TO"
  | morphMany => "RelationType.MORPH_MANY"
  | crossJoin => "RelationType.CROSS_JOIN"
  | dimension => "RelationType.DIMENSION"

def ofValue (v : Value) : Outcome RelationType :=
  match all.find? fun t => v.isText t.name with
  | some t => .ok t
  | none => .error (.badValue (v.quoted ++ " is not a valid RelationType"))

end RelationType

/-- A declared relation. Keys map roles to columns; the pivot is the table between the two sides of
a many-to-many relation. -/
structure Relation where
  name : Value
  type : RelationType
  target : Value
  keys : Entries Value Value
  pivot : Value

namespace Relation

/-- The column in a role; null when the relation does not name it. -/
def key (r : Relation) (role : String) : Value := Value.optional r.keys role

/-- Whether the other side holds at most one row. -/
def isOne (r : Relation) : Bool := [RelationType.belongsTo, .hasOne, .morphTo].contains r.type

/-- Whether the other side may hold several rows. -/
def isMany (r : Relation) : Bool :=
  [RelationType.hasMany, .morphMany, .belongsToMany].contains r.type

/-- Whether the relation goes through a pivot table. -/
def isPivot (r : Relation) : Bool := r.type = .belongsToMany

def document (r : Relation) : Value :=
  .record ([("name", r.name), ("type", .text r.type.name), ("target", r.target),
    ("keys", .object r.keys)] ++ (if r.pivot.isTrue then [("pivot", r.pivot)] else []))

/-- Reads a relation; the given name serves where the document has none. -/
def ofDocument (name v : Value) : Outcome Relation := do
  let fields ← v.objectFields
  let type ← RelationType.ofValue (← Value.required fields "type")
  let target ← Value.required fields "target"
  let keys ← ((Value.named? fields "keys").getD (.object [])).toFields
  return ⟨(Value.named? fields "name").getD (name.orElse ""), type, target, keys,
    Value.optional fields "pivot"⟩

def display (r : Relation) : String :=
  "RelationDescriptor(name=" ++ r.name.quoted ++ ", type=<" ++ r.type.label ++ ": '" ++
    r.type.name ++ "'>, target=" ++ r.target.quoted ++ ", keys=" ++
    (Value.object r.keys).quoted ++ ", pivot=" ++ r.pivot.quoted ++ ")"

/-- Whether two relations agree in everything. -/
def same (a b : Relation) : Bool :=
  a.name.same b.name && a.type == b.type && a.target.same b.target &&
    (Value.object a.keys).same (.object b.keys) && a.pivot.same b.pivot

end Relation

/-- The relations of a table by name, in the order of declaration. -/
abbrev RelationGraph := Entries Value Relation

namespace RelationGraph

/-- The relations of a list under their own names, which must be keys. -/
def ofRelations (relations : List Relation) : Outcome RelationGraph :=
  if relations.all (·.name.isKey) then .ok (Entries.ofPairs (relations.map fun r => (r.name, r)))
  else fail .wrongType

def ofType (graph : RelationGraph) (type : RelationType) : RelationGraph :=
  graph.filter fun e => e.2.type = type

/-- Whether two graphs hold equal relations under the same names. -/
def same (a b : RelationGraph) : Bool :=
  a.length == b.length && a.all fun e => match b.get? e.1 with
    | some r => e.2.same r
    | none => false

def document (graph : RelationGraph) : Value :=
  .object (graph.map fun e => (e.1, e.2.document))

/-- Reads a graph; what counts as absent is an empty one. -/
def ofDocument (v : Value) : Outcome RelationGraph := do
  if !v.isTrue then return []
  (← v.objectFields).mapM fun e => do return (e.1, ← Relation.ofDocument e.1 e.2)

end RelationGraph
end Datacube
