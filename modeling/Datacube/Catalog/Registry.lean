import Datacube.Catalog.Basic
import Datacube.Schema.Registry

/-!
# Registries with catalogs

A live registry holds providers with fixed tables and catalogs, with the cache and the files that
the catalogs use. A question is answered by the registry of what the providers found; the catalogs
that it consults are scanned first if they have to be, in the order of registration.
-/

namespace Datacube

/-- A provider: a source of fixed tables, or a catalog. -/
inductive Provider where
  | fixed (s : Source)
  | catalog (c : Catalog)

namespace Provider

def name : Provider → String
  | fixed s => s.name
  | catalog c => c.name

def source : Provider → Source
  | fixed s => s
  | catalog c => c.source

/-- Scans a catalog unless that was done. -/
def settle (files : Files) : Provider → Outcome Unit × Provider
  | fixed s => (.ok (), fixed s)
  | catalog c =>
    let (out, c) := c.scan files
    (out, catalog c)

end Provider

/-- Providers with what catalogs need: a cache, files, and the present moment. -/
structure LiveRegistry where
  providers : Entries String Provider
  cache : Cache
  files : Files
  now : Int

namespace LiveRegistry

def empty (cache : Cache) (files : Files) (now : Int) : LiveRegistry := ⟨[], cache, files, now⟩

def registry (r : LiveRegistry) : Registry := r.providers.mapValues Provider.source

/-- Replaces the provider of a name, or adds it. -/
def putProvider (r : LiveRegistry) (p : Provider) : LiveRegistry :=
  { r with providers := r.providers.put p.name p }

/-- Registers a provider. A catalog is given the cache first; one that cannot be scanned is not
registered. -/
def register (r : LiveRegistry) : Provider → Outcome Unit × LiveRegistry
  | .fixed s => (.ok (), r.putProvider (.fixed s))
  | .catalog c => match c.boot r.files r.now r.cache with
    | (.ok (), c, cache) => (.ok (), { r with cache }.putProvider (.catalog c))
    | (.error e, _, cache) => (.error e, { r with cache })

/-- Registers providers in turn, until one of them fails. -/
def registerAll (r : LiveRegistry) : List Provider → Outcome Unit × LiveRegistry
  | [] => (.ok (), r)
  | p :: rest => match r.register p with
    | (.ok (), r) => r.registerAll rest
    | failed => failed

/-- Scans the consulted providers in turn, until one of them fails. -/
def settleAll (files : Files) (consulted : String → Bool) :
    Entries String Provider → Outcome Unit × Entries String Provider
  | [] => (.ok (), [])
  | (name, p) :: rest =>
    if consulted name then
      match p.settle files with
      | (.ok (), p) =>
        let (out, rest) := settleAll files consulted rest
        (out, (name, p) :: rest)
      | (.error e, p) => (.error e, (name, p) :: rest)
    else
      let (out, rest) := settleAll files consulted rest
      (out, (name, p) :: rest)

/-- Answers a question after scanning the providers that it consults. -/
def ask {α : Type} (r : LiveRegistry) (consulted : String → Bool)
    (question : Registry → Outcome α) : Outcome α × LiveRegistry :=
  let (out, providers) := settleAll r.files consulted r.providers
  let r := { r with providers }
  (out.bind fun _ => question r.registry, r)

/-- Whether a provider is consulted for a reference: the one in front of it, unless the rest belongs
to yet another one, or every provider for a bare reference. -/
def consults (reference name : String) : Bool :=
  match Registry.splitReference reference with
  | (some provider, rest) => provider == name && !(Source.empty name .null).isForeign rest
  | (none, _) => true

def table (r : LiveRegistry) (reference : String) : Outcome Table × LiveRegistry :=
  r.ask (consults reference) (·.table reference)

/-- The table and column of a metric reference. -/
def metricSource (r : LiveRegistry) (reference : String) : Outcome MetricSource × LiveRegistry :=
  match Registry.cutMetric reference with
  | .ok (identifier, _) => r.ask (consults identifier) (·.metricSource reference)
  | .error e => (.error e, r)

/-- The tables and columns of metric references, until one of them has none. -/
def metricSources (r : LiveRegistry) : List String → Outcome (List MetricSource) × LiveRegistry
  | [] => (.ok [], r)
  | reference :: rest => match r.metricSource reference with
    | (.error e, r) => (.error e, r)
    | (.ok source, r) =>
      let (found, r) := r.metricSources rest
      (found.map (source :: ·), r)

/-- Changes a catalog, with the cache. -/
def update (r : LiveRegistry) (c : Catalog)
    (change : Catalog → Cache → Outcome Unit × Catalog × Cache) : Outcome Unit × LiveRegistry :=
  let (out, c, cache) := change c r.cache
  (out, { r with cache }.putProvider (.catalog c))

end LiveRegistry
end Datacube
