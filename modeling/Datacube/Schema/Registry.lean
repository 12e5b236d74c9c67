import Datacube.Schema.Compiled
import Datacube.Schema.Source

/-!
# The registry

The registry holds the sources of all providers in the order of registration. A reference with a
provider in front goes to that provider. A bare one is looked for at every provider and must have
exactly one owner: the registry never chooses between several.
-/

namespace Datacube
open Text

abbrev Registry := Entries String Source

namespace Registry

/-- A reference cut at its first colon. -/
def splitReference (reference : String) : Option String × String :=
  match splitFirst? ':' reference with
  | some (provider, rest) => (some provider, rest)
  | none => (none, reference)

/-- The sources of a list; a later one of the same provider replaces the earlier one. -/
def ofSources (sources : List Source) : Registry :=
  Entries.ofPairs (sources.map fun s => (s.name, s))

def owners (r : Registry) (identifier : String) : List Source :=
  r.values.filter (·.provides identifier)

def table (r : Registry) (identifier : String) : Outcome Table :=
  match splitReference identifier with
  | (some provider, name) => match r.get? provider with
    | none => refuse (.tableNotFound identifier provider (some (r.keys.map .text))
        "provider is not registered")
    | some source =>
      if source.provides name then source.table name
      else refuse (.tableNotFound name provider none .null)
  | (none, _) => match r.owners identifier with
    | [] => refuse (.tableNotFound identifier .null (some (r.keys.map .text)) .null)
    | [source] => source.table identifier
    | sources => refuse (.ambiguousTable identifier (sources.map fun s => .text s.name))

/-- The table that a value names, which must be a text. -/
def named (r : Registry) : Value → Outcome Table
  | .text identifier => r.table identifier
  | .list _ | .object _ => fail .noSuchMember
  | _ => fail .wrongType

/-- The identifier of the table and the column that a metric reference names. -/
def cutMetric (reference : String) : Outcome (String × String) :=
  let (provider, rest) := splitReference reference
  match splitFirst? '.' rest with
  | none => refuse (.referenceNotFound reference
      "expected 'table.column' or 'provider:table.column'" .null)
  -- An empty provider counts as none.
  | some (name, column) => .ok (match provider with
      | some "" | none => (name, column)
      | some provider => (provider ++ ":" ++ name, column))

/-- The table and column of a metric reference; the owner of the table places the column. -/
def metricSource (r : Registry) (reference : String) : Outcome MetricSource := do
  let (identifier, column) ← cutMetric reference
  let t ← r.table identifier
  match r.get? t.provider with
  | some source => source.metricSource (t.label ++ "." ++ column)
  | none => fail .missingKey

/-- Whether a reference names one table. Only a missing or a shared name counts as a no. -/
def resolves (r : Registry) (identifier : String) : Outcome Bool :=
  match r.table identifier with
  | .ok _ => .ok true
  | .error (.refused (.tableNotFound ..)) | .error (.refused (.ambiguousTable ..)) => .ok false
  | .error e => .error e

/-- All tables with the provider that answers for them. -/
def owned (r : Registry) : List (String × Table) :=
  r.flatMap fun e => e.2.tables.map fun t => (e.1, t)

/-- All tables by the shortest reference that names one table: the bare name, or the identifier for
names that several tables bear. -/
def allTables (r : Registry) : Outcome (Entries Value Table) :=
  let all := r.owned.map (·.2)
  if all.all (·.name.isKey) then
    let groups := all.foldl (fun (acc : Entries Value (List Table)) t => acc.push t.name t) []
    .ok (.ofPairs (groups.flatMap fun
      | (name, [t]) => [(name, t)]
      | (_, ts) => ts.map fun t => (.text t.identifier, t)))
  else fail .wrongType

def compile (r : Registry) : Outcome Schema := Schema.ofOwned r.owned

end Registry
end Datacube
