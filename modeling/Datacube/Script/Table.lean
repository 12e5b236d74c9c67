import Datacube.Schema.Source
import Datacube.Script.Dimension

/-!
# Tables in scripts

A table is declared by its name with calls that add to it, or as a document; a provider by its name,
its default connection and its tables.
-/

namespace Datacube

def Relation.ofScript (v : Value) : Outcome Relation := do
  let name ← Value.required v.members "name"
  let type ← RelationType.ofValue (← Value.required v.members "type")
  let target ← Value.required v.members "target"
  return ⟨name, type, target, ← (v.memberOr "keys" (.object [])).toFields, v.member "pivot"⟩

namespace Relation

/-- The relation as a document, with how many rows it relates. -/
def summary (r : Relation) : Value :=
  r.document.adding
    [("one", .bool r.isOne), ("many", .bool r.isMany), ("isPivot", .bool r.isPivot)]

def vocabulary : Vocabulary where
  calls := Vocabulary.questions ["is_one", "is_many", "is_pivot", "to_dict"] ++
    [("key", .upTo ["role"] ["default"])]
  fields := ["name", "type", "target", "keys", "pivot"]

def answer (r : Relation) (c : Call) : Outcome Value := do
  vocabulary.check c
  match c.name with
  | "key" => return (r.keys.get? (← c.key 0 "role")).getD (c.optional 1 "default")
  | "is_one" => return .bool r.isOne
  | "is_many" => return .bool r.isMany
  | "is_pivot" => return .bool r.isPivot
  | "to_dict" => return r.document
  | "__repr__" => return .text r.display
  | _ => Call.unknown

end Relation

namespace RelationGraph

def vocabulary : Vocabulary where
  calls := Vocabulary.questions ["all", "names", "count", "is_empty", "to_dict", "__len__"] ++
    [("get", .exactly ["name"]), ("has", .exactly ["name"])] ++
    Vocabulary.unchecked ["iterate", "for_each", "of_type", "equals"]
  fields := []

/-- Answers a question about the relations of a table. -/
def answer (g : RelationGraph) (c : Call) : Outcome Value := do
  vocabulary.check c
  match c.name with
  | "names" => return .list g.keys
  | "iterate" => return .list (g.values.map (·.name))
  | "count" | "__len__" => return .int g.length
  | "is_empty" => return .bool g.isEmpty
  | "for_each" => return .list (g.map fun e => .list [e.1, e.2.target])
  | "has" => return .bool (g.has (← c.key 0 "name"))
  | "get" => return ((g.get? (← c.key 0 "name")).map (·.summary)).getD .null
  | "all" => return .object (g.mapValues (·.summary))
  | "to_dict" => return g.document
  | "of_type" => return .list (g.ofType (← RelationType.ofValue (← c.required 0 "type"))).keys
  | "__repr__" => return displayKeys "RelationGraph" g.keys
  | "equals" => return .bool (g.same (← RelationGraph.ofDocument (← c.required 0 "")))
  | _ => Call.unknown

end RelationGraph

namespace TableDraft

def vocabulary : Vocabulary where
  calls :=
    [("connection", .exactly ["connection"]),
     ("primary_key", { Signature.any with byName := ["auto_increment"] }),
     ("columns", .any), ("sql", .exactly ["sql"]),
     ("meta", { Signature.exactly [] with moreNamed := true }),
     ("belongs_to", .upTo ["name", "target"] ["foreign_key", "owner_key"]),
     ("has_many", .upTo ["name", "target", "foreign_key"] ["local_key"]),
     ("has_one", .upTo ["name", "target", "foreign_key"] ["local_key"]),
     ("belongs_to_many",
       .upTo ["name", "target", "pivot", "foreign_pivot_key", "related_pivot_key"]
         ["local_key", "owner_key"]),
     ("cross_join", .upTo ["target"] ["left_key", "right_key", "name"]),
     ("build", .upTo ["provider"] ["connection"])] ++
    Vocabulary.unchecked ["relation", "dimension"]
  fields := ["name"]

/-- The draft with what a call adds. A draft that is built stays what it is. -/
def edit? (t : TableDraft) (c : Call) : Option (Outcome TableDraft) :=
  match c.name with
  | "connection" => some (do return t.onConnection (← c.required 0 "connection"))
  | "primary_key" =>
    some (.ok (t.keyedBy c.arguments ((Value.named? c.named "auto_increment").getD (.bool true))))
  | "columns" => some (.ok (t.addColumns c.arguments))
  | "sql" => some (do return t.backedBy (← c.required 0 "sql"))
  | "meta" => some (.ok (t.annotate c.named))
  | "relation" => some (do return t.relate (← Relation.ofScript (← c.required 0 "descriptor")))
  | "dimension" => some (do return t.addDimensions (← c.arguments.mapM Dimension.ofScript))
  | "belongs_to" => some (do
      return t.belongsTo (← c.required 0 "name") (← c.required 1 "target")
        (c.optional 2 "foreign_key") (c.argumentOr 3 "owner_key" "id"))
  | "has_many" => some (do
      return t.hasMany (← c.required 0 "name") (← c.required 1 "target")
        (← c.required 2 "foreign_key") (c.argumentOr 3 "local_key" "id"))
  | "has_one" => some (do
      return t.hasOne (← c.required 0 "name") (← c.required 1 "target")
        (← c.required 2 "foreign_key") (c.argumentOr 3 "local_key" "id"))
  | "belongs_to_many" => some (do
      return t.belongsToMany (← c.required 0 "name") (← c.required 1 "target")
        (← c.required 2 "pivot") (← c.required 3 "foreign_pivot_key")
        (← c.required 4 "related_pivot_key") (c.argumentOr 5 "local_key" "id")
        (c.argumentOr 6 "owner_key" "id"))
  | "cross_join" => some (do
      return t.crossJoin (← c.required 0 "target") (c.optional 1 "left_key")
        (c.optional 2 "right_key") (c.optional 3 "name"))
  | "build" => some (do
      let _ ← t.build "" .null
      return t)
  | _ => none

/-- The draft with what a call adds, after the call is checked. -/
def extended (t : TableDraft) (c : Call) : Option (Outcome TableDraft) :=
  vocabulary.checked c (t.edit? c)

def ofScript (v : Value) : Outcome TableDraft := do
  runScript extended (.named (← Value.required v.members "name")) v.calls

end TableDraft

/-- The table that a script declares for a provider with a default connection. -/
def Table.ofScript (provider : String) (connection v : Value) : Outcome Table :=
  match v.field? "dict" with
  | some document => Table.ofDocument ((v.member "provider").textOr provider)
      ((v.member "connection").orElse connection) document
  | none => do (← TableDraft.ofScript v).build provider connection

namespace Table

/-- The table as a document, with what is known of it as a whole. -/
def summary (t : Table) : Outcome Value := do
  return .record [("identifier", .text t.identifier), ("connectionKey", .text t.connectionKey),
    ("virtual", .bool t.isVirtual), ("table", ← t.document)]

def vocabulary : Vocabulary where
  calls := Vocabulary.questions ["is_virtual", "to_dict"] ++
    [("has_column", .exactly ["column"])] ++ Vocabulary.unchecked ["roundtrip", "equals"]
  fields := ["name", "provider", "connection", "primary_key", "relations", "dimensions", "columns",
    "sql", "meta", "identifier", "connection_key"]

/-- Answers a question about a table; `read` reads the script of another one. -/
def answer (read : Value → Outcome Table) (t : Table) (c : Call) : Outcome Value := do
  vocabulary.check c
  match c.name with
  | "has_column" => return .bool (t.hasColumn (← c.required 0 "column"))
  | "is_virtual" => return .bool t.isVirtual
  | "to_dict" => t.document
  | "__repr__" => return .text t.display
  | "roundtrip" =>
    let v ← t.document
    return .bool ((← (← Table.ofDocument t.provider .null v).document).same v)
  | "equals" =>
    let equal := t.identifier == (← read (← c.required 0 "")).identifier
    return .list [.bool equal, .bool equal]
  | _ => Call.unknown

end Table

def MetricSource.document (s : MetricSource) : Value :=
  .record [("key", .text s.key), ("table", .text s.table.identifier), ("name", s.table.name),
    ("column", .text s.column), ("connection", s.effectiveConnection)]

/-- Adds the table that a script declares. The connection of the source serves tables that are
declared by calls; those that are given as documents keep theirs. -/
def Source.addScript (s : Source) (v : Value) : Outcome Source := do
  let connection := if (v.field? "dict").isSome then .null else s.connection
  s.add (← Table.ofScript s.name connection v)

def Source.ofScript (v : Value) : Outcome Source := do
  let name := (← Value.required v.members "name").toText
  let connection := v.member "connection"
  let tables := (v.member "tables").elements
  if (v.member "type").isText "list" then
    return ⟨name, .listed, connection, ← tables.mapM (Table.ofScript name connection)⟩
  else tables.foldlM Source.addScript (.empty name connection)

end Datacube
