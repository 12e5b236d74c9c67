import Datacube.Schema.Dimension
import Datacube.Schema.Relation

/-!
# Tables

A table is one queryable source of a provider: a physical table, or a virtual one that stands for a
query. The identifier, provider and name, is unique; the name alone need not be. Tables with one
connection key may be joined by the backend.
-/

namespace Datacube
open Text

/-- The primary key of a table. -/
structure PrimaryKey where
  columns : List Value
  autoIncrement : Value

namespace PrimaryKey

def isSingle (k : PrimaryKey) : Bool := k.columns.length == 1

def isComposite (k : PrimaryKey) : Bool := k.columns.length > 1

def column (k : PrimaryKey) : Value :=
  match k.columns with
  | [c] => c
  | _ => .null

def document (k : PrimaryKey) : Value :=
  .record [("columns", .list k.columns), ("autoIncrement", k.autoIncrement)]

/-- Reads a key: a column, a list of columns, or an object. -/
def ofDocument : Value → Outcome PrimaryKey
  | .text s => .ok ⟨[.text s], .bool true⟩
  | .list columns => .ok ⟨columns, .bool true⟩
  | v => do
    let fields ← v.objectFields
    let field := Value.named? fields
    let columns ← ((field "columns").getD (.list [])).toItems
    return ⟨columns, ((field "autoIncrement").or (field "auto_increment")).getD (.bool true)⟩

def ofOptional (v : Value) : Outcome (Option PrimaryKey) :=
  if v.isTrue then some <$> ofDocument v else .ok none

end PrimaryKey

/-- A table of a provider. Without known columns every column is accepted. A table without a
connection or a query of its own has null there. -/
structure Table where
  name : Value
  provider : String
  connection : Value
  primaryKey : Option PrimaryKey
  relations : RelationGraph
  dimensions : DimensionCatalog
  columns : List Value
  sql : Value
  metadata : Value

namespace Table

def label (t : Table) : String := t.name.toText

def identifier (t : Table) : String := t.provider ++ ":" ++ t.label

def keyOf (provider : String) (connection : Value) : String :=
  provider ++ ":" ++ (if connection.isNull then "null" else connection.toText)

/-- The connection of the table, within its provider. -/
def connectionKey (t : Table) : String := keyOf t.provider t.connection

def isVirtual (t : Table) : Bool := !t.sql.isNull

/-- Whether the table has a column, as far as known. -/
def hasColumn (t : Table) (column : Value) : Bool :=
  t.columns.isEmpty || t.columns.any (·.same column) || column.isText "*"

def display (t : Table) : String :=
  "Table(" ++ quotedText t.identifier ++ ", connection=" ++ t.connection.quoted ++ ")"

def document (t : Table) : Outcome Value := do
  let dimensions ← DimensionCatalog.document t.dimensions
  let metadata ← t.metadata.toFields
  return .record ([("name", t.name), ("connection", t.connection),
    ("primaryKey", match t.primaryKey with
      | some key => key.document
      | none => .null),
    ("relations", RelationGraph.document t.relations), ("dimensions", dimensions),
    ("columns", .list t.columns), ("meta", .object metadata)] ++
    (if t.isVirtual then [("sql", t.sql)] else []))

/-- Reads the dimensions of a table: a list, or an object of keys. -/
def dimensionsOf (v : Value) : Outcome DimensionCatalog :=
  match v with
  | .list items => do return .ofDimensions (← items.mapM Dimension.ofDocument)
  | v => DimensionCatalog.ofDocument v

/-- Reads a table of a provider; the given connection serves where the document has none. -/
def ofDocument (provider : String) (connection v : Value) : Outcome Table := do
  let fields ← v.objectFields
  let field := Value.named? fields
  let optional := Value.optional fields
  let dimensions ← dimensionsOf (optional "dimensions")
  let name ← Value.required fields "name"
  let primaryKey ← PrimaryKey.ofOptional
    (((field "primaryKey").or (field "primary_key")).getD .null)
  let relations ← RelationGraph.ofDocument (optional "relations")
  let columns ← ((optional "columns").orElse (.list [])).toItems
  return {
    name, provider, primaryKey, relations, dimensions, columns
    connection := (optional "connection").orElse connection
    sql := optional "sql"
    metadata := (optional "meta").orElse (.object []) }

end Table

/-- The column of a table that an aggregation reads, with a connection of its own if it has one. -/
structure MetricSource where
  table : Table
  column : String
  connection : Value

namespace MetricSource

def key (s : MetricSource) : String := s.table.identifier ++ "." ++ s.column

def effectiveConnection (s : MetricSource) : Value :=
  if s.connection.isNull then s.table.connection else s.connection

def connectionKey (s : MetricSource) : String := Table.keyOf s.table.provider s.effectiveConnection

end MetricSource
end Datacube
