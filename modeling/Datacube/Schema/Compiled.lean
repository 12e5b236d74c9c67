import Datacube.Schema.Table

/-!
# Compiled schemas

A compiled schema is what all providers declare at one moment: every table by its identifier, the
tables whose bare name has one owner, the provider of each table and the tables of each connection.
-/

namespace Datacube
open Text

/-- A snapshot of all tables. -/
structure Schema where
  tables : Entries String Table
  byName : Entries Value Table
  providers : Entries String String
  connections : Entries String (List String)

namespace Schema

/-- The tables of a list by identifier; the last one of an identifier counts. -/
def byIdentifier (tables : List Table) : Entries String Table :=
  .ofPairs (tables.map fun t => (t.identifier, t))

def owners (tables : List Table) (name : Value) : Nat :=
  (tables.filter fun t => t.name.same name).length

/-- The tables of a list whose name no other table bears. -/
def unshared (tables : List Table) : Entries Value Table :=
  (tables.filter fun t => owners tables t.name == 1).map fun t => (t.name, t)

def byConnection (tables : List Table) : Entries String (List String) :=
  tables.foldl (fun acc t => acc.push t.connectionKey t.identifier) []

/-- The schema of tables that are listed with the provider that answers for them. -/
def ofOwned (tables : List (String × Table)) : Outcome Schema :=
  let all := tables.map (·.2)
  if all.all (·.name.isKey) then
    .ok { tables := byIdentifier all
          byName := unshared all
          providers := .ofPairs (tables.map fun e => (e.2.identifier, e.1))
          connections := byConnection all }
  else fail .wrongType

def ofTables (tables : List Table) : Outcome Schema :=
  ofOwned (tables.map fun t => (t.provider, t))

def identified? (s : Schema) : Value → Option Table
  | .text identifier => s.tables.get? identifier
  | _ => none

/-- The table of a bare name that has one owner. -/
def named? (s : Schema) (name : Value) : Option Table := s.byName.get? name

/-- The table of that name at the preferred provider. Only a text can be looked for there. -/
def preferred? (s : Schema) (identifier : Value) (provider : String) : Outcome (Option Table) :=
  match identifier with
  | .text name =>
    .ok (if name.toList.contains ':' then none else s.tables.get? (provider ++ ":" ++ name))
  | _ => fail .wrongType

/-- The table of an identifier, else the table of that name at the preferred provider, else the only
table of that name. -/
def find (s : Schema) (identifier preferred : Value) : Outcome (Option Table) := do
  if !identifier.isKey then fail .wrongType
  match s.identified? identifier with
  | some t => return some t
  | none =>
    let found ← if preferred.isTrue then s.preferred? identifier preferred.toText else pure none
    return found.or (s.named? identifier)

/-- Whether an identifier or a name with one owner is known. -/
def has (s : Schema) (identifier : Value) : Bool :=
  (s.identified? identifier).isSome || (s.named? identifier).isSome

def relations (s : Schema) (identifier : Value) : Outcome RelationGraph :=
  match s.identified? identifier with
  | some t => .ok t.relations
  | none => refuse (.tableNotFound identifier .null none "no relations in compiled schema")

def dimensions (s : Schema) (identifier : Value) : Outcome DimensionCatalog :=
  match s.identified? identifier with
  | some t => .ok t.dimensions
  | none => refuse (.tableNotFound identifier .null none "no dimensions in compiled schema")

/-- The identifiers of the tables of a connection. -/
def onConnection (s : Schema) : Value → List String
  | .text connectionKey => (s.connections.get? connectionKey).getD []
  | _ => []

def provider? (s : Schema) : Value → Option String
  | .text identifier => s.providers.get? identifier
  | _ => none

/-- The connections that a list of metrics needs, each once. -/
def connectionsFor (metrics : List MetricSource) : List String :=
  metrics.foldl (fun acc m =>
    if acc.contains m.connectionKey then acc else acc ++ [m.connectionKey]) []

end Schema
end Datacube
