import Datacube.Schema.Table

/-!
# Declaring tables

A draft collects what is declared about a table in code and becomes a `Table` when a provider takes
it.
-/

namespace Datacube

/-- A table in the making. -/
structure TableDraft where
  name : Value
  connection : Value
  primaryKey : Option PrimaryKey
  relations : List Relation
  dimensions : List Dimension
  columns : List Value
  sql : Value
  metadata : Entries Value Value

namespace TableDraft

def named (name : Value) : TableDraft := ⟨name, .null, none, [], [], [], .null, []⟩

def onConnection (t : TableDraft) (connection : Value) : TableDraft := { t with connection }

def keyedBy (t : TableDraft) (columns : List Value) (autoIncrement : Value) : TableDraft :=
  { t with primaryKey := some ⟨columns, autoIncrement⟩ }

def addColumns (t : TableDraft) (columns : List Value) : TableDraft :=
  { t with columns := t.columns ++ columns }

def backedBy (t : TableDraft) (sql : Value) : TableDraft := { t with sql }

def annotate (t : TableDraft) (metadata : Entries Value Value) : TableDraft :=
  { t with metadata := t.metadata.putAll metadata }

def relate (t : TableDraft) (relation : Relation) : TableDraft :=
  { t with relations := t.relations ++ [relation] }

def addDimensions (t : TableDraft) (dimensions : List Dimension) : TableDraft :=
  { t with dimensions := t.dimensions ++ dimensions }

/-- The table holds the key of one row of the target; the foreign key is named after the relation
unless given. -/
def belongsTo (t : TableDraft) (name target foreignKey ownerKey : Value) : TableDraft :=
  t.relate ⟨name, .belongsTo, target,
    [("foreign", foreignKey.orElse (name.toText ++ "_id")), ("owner", ownerKey)], .null⟩

/-- Rows of the target hold the key of a row of this table. -/
def hasMany (t : TableDraft) (name target foreignKey localKey : Value) : TableDraft :=
  t.relate ⟨name, .hasMany, target, [("local", localKey), ("foreign", foreignKey)], .null⟩

/-- One row of the target holds the key of a row of this table. -/
def hasOne (t : TableDraft) (name target foreignKey localKey : Value) : TableDraft :=
  t.relate ⟨name, .hasOne, target, [("local", localKey), ("foreign", foreignKey)], .null⟩

/-- Rows of a pivot table connect both sides. -/
def belongsToMany (t : TableDraft)
    (name target pivot foreignKey relatedKey localKey ownerKey : Value) : TableDraft :=
  t.relate ⟨name, .belongsToMany, target,
    [("foreign", foreignKey), ("related", relatedKey), ("local", localKey), ("owner", ownerKey)],
    pivot⟩

/-- Every row of the target belongs to every row, unless both keys are given. -/
def crossJoin (t : TableDraft) (target leftKey rightKey name : Value) : TableDraft :=
  t.relate ⟨name.orElse ("cross_" ++ target.toText), .crossJoin, target,
    if leftKey.isTrue && rightKey.isTrue then [("left", leftKey), ("right", rightKey)] else [],
    .null⟩

/-- The table that a provider makes of the draft; its connection serves where the draft has none. -/
def build (t : TableDraft) (provider : String) (connection : Value) : Outcome Table := do
  return {
    name := t.name
    provider
    connection := t.connection.orElse connection
    primaryKey := t.primaryKey
    relations := ← RelationGraph.ofRelations t.relations
    dimensions := .ofDimensions t.dimensions
    columns := t.columns
    sql := t.sql
    metadata := .object t.metadata }

end TableDraft
end Datacube
