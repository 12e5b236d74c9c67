import Datacube.Error

/-!
# Dependencies between metrics

A computed metric reads other metrics of the request. `resolve` orders metrics so that each comes
after those it reads, `levels` groups them by the length of their longest chain of dependencies, and
`split` tells metrics that could be derived next to their own table from those that need the merged
rows. Dependencies on metrics outside the list do not count. A metric that depends on itself,
directly or not, is refused.
-/

namespace Datacube

/-- A metric of a request: its alias, the table it reads, what it depends on and the metric itself.
-/
structure MetricNode (μ : Type) where
  key : Value
  table : Value
  dependencies : List Value
  metric : μ

/-- Where a metric is computed. -/
inductive Strategy where
  | database
  | software
  deriving DecidableEq, Repr

def Strategy.name : Strategy → String
  | database => "database"
  | software => "software"

namespace MetricNode
variable {μ : Type}

/-- The node of a key; the last one of a key counts. -/
def named? (nodes : List (MetricNode μ)) (key : Value) : Outcome (Option (MetricNode μ)) :=
  if key.isKey then .ok (nodes.reverse.find? (·.key == key)) else fail .wrongType

/-- Checks that metrics can be told apart by their keys. -/
def checkKeys (nodes : List (MetricNode μ)) : Outcome Unit :=
  if nodes.all (·.key.isKey) then .ok () else fail .wrongType

/-- The depth that no chain of different keys exceeds. -/
def depth (nodes : List (MetricNode μ)) : Nat := nodes.length + 1

/-- Adds a node after everything it depends on. `active` holds the keys whose dependencies are being
visited; every call adds one, so the number of nodes bounds the depth. -/
def visit (nodes : List (MetricNode μ)) : Nat → List Value → Entries Value (MetricNode μ) →
    MetricNode μ → Outcome (Entries Value (MetricNode μ))
  | 0, _, _, n => refuse (.circularDependency n.key)
  | fuel + 1, active, done, n =>
    if done.has n.key then .ok done
    else if active.contains n.key then refuse (.circularDependency n.key)
    else do
      let done ← n.dependencies.foldlM (fun done key => do
        match ← named? nodes key with
        | some other => visit nodes fuel (n.key :: active) done other
        | none => return done) done
      return done.put n.key n

/-- The nodes in an order in which each comes after its dependencies; otherwise the given order is
kept. -/
def resolve (nodes : List (MetricNode μ)) : Outcome (List (MetricNode μ)) := do
  checkKeys nodes
  let done ← nodes.foldlM (visit nodes (depth nodes) []) []
  return done.values

/-- The level of a node, with the levels known so far: one more than the highest level of its
dependencies. -/
def level (nodes : List (MetricNode μ)) : Nat → List Value → Entries Value Nat →
    MetricNode μ → Outcome (Nat × Entries Value Nat)
  | 0, _, _, n => refuse (.circularDependency n.key)
  | fuel + 1, active, known, n =>
    match known.get? n.key with
    | some found => .ok (found, known)
    | none =>
      if active.contains n.key then refuse (.circularDependency n.key)
      else do
        let (highest, known) ← n.dependencies.foldlM (fun (acc : Nat × Entries Value Nat) key => do
          match ← named? nodes key with
          | some other =>
            -- Levels found on the way are kept, so every node is measured once.
            let (below, known) ← level nodes fuel (n.key :: active) acc.2 other
            return (max acc.1 (below + 1), known)
          | none => return acc) (0, known)
        return (highest, known.put n.key highest)

/-- The nodes with their levels, in the given order. -/
def leveled (nodes : List (MetricNode μ)) : Outcome (List (Nat × MetricNode μ)) := do
  checkKeys nodes
  let (pairs, _) ← nodes.foldlM (fun (acc : List (Nat × MetricNode μ) × Entries Value Nat) n => do
    let (found, known) ← level nodes (depth nodes) [] acc.2 n
    return (acc.1 ++ [(found, n)], known)) ([], [])
  return pairs

/-- The nodes by level, lowest first. -/
def levels (nodes : List (MetricNode μ)) : Outcome (List (Nat × List (MetricNode μ))) := do
  let pairs ← leveled nodes
  return (List.range (depth nodes)).filterMap fun l =>
    match pairs.filter (·.1 == l) with
    | [] => none
    | group => some (l, group.map (·.2))

/-- Whether a metric could be derived next to its own table: it depends on nothing, or everything it
depends on reads that table and could be derived there too. -/
def isLocal (nodes : List (MetricNode μ)) : Nat → List Value → MetricNode μ → Outcome Bool
  | 0, _, n => refuse (.circularDependency n.key)
  | fuel + 1, active, n =>
    if n.dependencies.isEmpty then .ok true
    else if active.contains n.key then refuse (.circularDependency n.key)
    else n.dependencies.allM fun key => do
      match ← named? nodes key with
      | none => return false
      | some other =>
        if n.table.isNull || !other.table.same n.table then return false
        else isLocal nodes fuel (n.key :: active) other

def strategies (nodes : List (MetricNode μ)) : Outcome (List (Strategy × MetricNode μ)) :=
  nodes.mapM fun n => do
    return (if ← isLocal nodes (depth nodes) [] n then .database else .software, n)

/-- The nodes of each strategy, database first. -/
def split (nodes : List (MetricNode μ)) :
    Outcome (List (MetricNode μ) × List (MetricNode μ)) := do
  checkKeys nodes
  let pairs ← strategies nodes
  return ((pairs.filter (·.1 = .database)).map (·.2), (pairs.filter (·.1 = .software)).map (·.2))

end MetricNode
end Datacube
