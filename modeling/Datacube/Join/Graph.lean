import Datacube.Join.Path

/-!
# Join graphs

A join graph connects a list of tables, starting from the first. Every further table is attached by
the first connected table from which a path leads to it. Where no path does, a dimension that both
tables declare connects them.
-/

namespace Datacube

/-- The joins that connect several tables, in an order in which every join starts at a table that is
already connected. -/
abbrev JoinGraph := List JoinStep

namespace JoinGraph

/-- The names of the joined tables, each once. -/
def tables (g : JoinGraph) : List Value :=
  g.foldl (fun acc s => [s.source, s.target].foldl
    (fun acc name => if acc.contains name then acc else acc ++ [name]) acc) []

def document (g : JoinGraph) : Value :=
  .record [("type", .text "database"), ("joins", .list (g.map (·.document)))]

/-- The relation by which a shared dimension connects two tables. -/
def sharedDimension (d own theirs : Dimension) (target : Table) : Relation :=
  { name := "dimension:" ++ d.name.toText
    type := .dimension
    target := target.identifier
    keys := [("left", own.column), ("right", theirs.column), ("alias", d.aliasName)]
    pivot := .null }

/-- The join by the first requested dimension that a connected table and the target declare. -/
def dimensionJoin? (connected : List Table) (target : Table) (dimensions : List Dimension) :
    Option JoinStep :=
  dimensions.findSome? fun d =>
    (target.dimensions.get? (.text d.key)).bind fun theirs =>
      connected.findSome? fun source =>
        (source.dimensions.get? (.text d.key)).map fun own =>
          .between source target (sharedDimension d own theirs target) "inner"

/-- The path to a table from the first connected table that reaches it. -/
def path? (f : PathFinder) (connected : List Table) (target : Table) :
    Outcome (Option (List JoinStep)) :=
  connected.findSomeM? fun source => f.find source target

def attach (f : PathFinder) (connected : List Table) (target : Table)
    (dimensions : List Dimension) : Outcome (List JoinStep) := do
  match ← path? f connected target with
  | some path => return path
  | none => match dimensionJoin? connected target dimensions with
    | some step => return [step]
    | none =>
      refuse (.joinPathNotFound target.identifier (connected.map fun t => .text t.identifier))

/-- A graph in the making: the connected tables, and the joins by the tables that they connect. -/
structure Growth where
  connected : List Table
  joins : Entries (String × String) JoinStep

/-- Adds joins; the first join between two tables stays. -/
def Growth.addSteps (g : Growth) (steps : List JoinStep) : Growth :=
  { g with joins := steps.foldl (fun acc s => acc.putNew (s.sourceId, s.targetId) s) g.joins }

/-- Attaches a table unless it is connected. -/
def Growth.add (f : PathFinder) (dimensions : List Dimension) (g : Growth) (target : Table) :
    Outcome Growth :=
  if g.connected.any (·.identifier == target.identifier) then .ok g
  else do
    let steps ← attach f g.connected target dimensions
    return { g.addSteps steps with connected := g.connected ++ [target] }

def build (f : PathFinder) (tables : List Table) (dimensions : List Dimension) :
    Outcome JoinGraph :=
  match tables with
  | [] | [_] => .ok []
  | first :: rest => do
    let grown ← rest.foldlM (Growth.add f dimensions) ⟨[first], []⟩
    return grown.joins.values

end JoinGraph
end Datacube
