import Datacube.Schema.Draft

/-!
# Sources of tables

A source hands out the tables of one provider and resolves references to their columns. An indexed
source holds one table per name and refuses columns that its table does not declare. A listed source
takes every column on trust and answers for its metrics on a connection of its own.
-/

namespace Datacube
open Text

/-- How a source resolves references. -/
inductive SourceKind where
  | indexed
  | listed
  deriving DecidableEq, Repr

/-- The tables of a provider, and the connection of those that are declared without one. -/
structure Source where
  name : String
  kind : SourceKind
  connection : Value
  tables : List Table

namespace Source

/-- A table of an index replaces the one of the same name and keeps its place. -/
def insertTable (tables : List Table) (t : Table) : List Table :=
  match tables with
  | [] => [t]
  | u :: rest => if t.name.same u.name then t :: rest else u :: insertTable rest t

/-- The tables of an index, of which the last one of a name counts. -/
def index (tables : List Table) : List Table := tables.foldl insertTable []

def indexed (name : String) (tables : List Table) : Source := ⟨name, .indexed, .null, index tables⟩

def empty (name : String) (connection : Value) : Source := ⟨name, .indexed, connection, []⟩

/-- Adds a table, which must belong to the provider. -/
def add (s : Source) (t : Table) : Outcome Source :=
  if t.provider != s.name then
    .error (.badValue ("Table '" ++ t.identifier ++ "' belongs to provider '" ++ t.provider ++
      "', not '" ++ s.name ++ "'"))
  else if t.name.isKey then .ok { s with tables := insertTable s.tables t }
  else fail .wrongType

/-- The name of the provider as it stands in front of a reference. -/
def tag (s : Source) : String := s.name ++ ":"

/-- A reference without the name of this provider in front. -/
def localName (s : Source) (reference : String) : String := withoutStart s.tag reference

def named? (s : Source) (name : String) : Option Table := s.tables.find? (·.name.isText name)

/-- Whether a reference is written with the name of another provider. -/
def isForeign (s : Source) (identifier : String) : Bool :=
  identifier.toList.contains ':' && !startsWith s.tag identifier

def provides (s : Source) (identifier : String) : Bool :=
  match s.kind with
  | .indexed => !s.isForeign identifier && (s.named? (s.localName identifier)).isSome
  | .listed => (s.named? (s.localName identifier)).isSome

/-- The table of a name, with or without the provider in front. -/
def table (s : Source) (identifier : String) : Outcome Table :=
  match s.named? (s.localName identifier) with
  | some t => .ok t
  | none => refuse (.tableNotFound identifier s.name none .null)

/-- The table and column of a reference; the column begins after the first point. -/
def metricSource (s : Source) (reference : String) : Outcome MetricSource :=
  match s.kind, splitFirst? '.' (s.localName reference) with
  | .indexed, none =>
    refuse (.referenceNotFound reference "expected 'table.column'" s.name)
  | .listed, none => fail .badValue
  | .indexed, some (name, column) => match s.named? name with
    | none => refuse (.referenceNotFound reference
        ("table '" ++ name ++ "' is not declared") s.name)
    | some t =>
      if t.hasColumn column then .ok ⟨t, column, .null⟩
      else refuse (.referenceNotFound reference
        ("column '" ++ column ++ "' is not declared on '" ++ name ++ "'") s.name)
  | .listed, some (name, column) => do
    return ⟨← s.table name, column, .text (s.name ++ "-metrics")⟩

/-- The relations of a table; a listed source refuses unknown tables. -/
def relations (s : Source) (identifier : String) : Outcome RelationGraph :=
  match s.kind, s.named? (s.localName identifier) with
  | _, some t => .ok t.relations
  | .indexed, none => .ok []
  | .listed, none => refuse (.tableNotFound identifier s.name none .null)

/-- The dimensions of a table; a listed source refuses unknown tables. -/
def dimensions (s : Source) (identifier : String) : Outcome DimensionCatalog :=
  match s.kind, s.named? (s.localName identifier) with
  | _, some t => .ok t.dimensions
  | .indexed, none => .ok []
  | .listed, none => refuse (.tableNotFound identifier s.name none .null)

end Source
end Datacube
