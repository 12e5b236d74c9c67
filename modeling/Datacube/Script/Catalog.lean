import Datacube.Catalog.Registry
import Datacube.Script.Metric
import Datacube.Script.Table

/-!
# Catalogs in scripts

Caches, files and providers as scripts declare them. Files that a script holds as values are written
as JSON.
-/

namespace Datacube
open Text

namespace Cache

/-- The store that a script gives a cache: one at hand, or one at an address. -/
def storeOfScript (v : Value) : Outcome SharedStore :=
  if (v.member "client").truth true then .ok ⟨[], !(v.member "fail").truth false⟩
  else SharedStore.atAddress (v.member "url").asText?

/-- The cache that a script declares; a local one unless it says otherwise. -/
def ofScript (v : Value) : Outcome Cache := do
  let enabled := (v.member "enabled").truth true
  if (v.member "type").isText "redis" then
    let lifetime := v.member "ttl_seconds"
    return .sharing enabled (← storeOfScript v) ((v.member "prefix").textOr "slice:schema:")
      (if lifetime.isNull then none else some lifetime)
  else return .empty enabled

def vocabulary (c : Cache) : Vocabulary where
  calls := Vocabulary.questions ["flush", "disable", "enable", "is_enabled", "all", "size"] ++
    [("put", .exactly ["key", "value"]), ("get", .exactly ["key"]), ("has", .exactly ["key"]),
     ("forget", .exactly ["key"])] ++
    Vocabulary.unchecked ["keys", "tables", "stored", "fail", "store_raw"]
  fields := match c.store with
    | .own _ => []
    | .shared .. => ["prefix"]

def sharedStore? (c : Cache) : Option SharedStore :=
  match c.store with
  | .shared s _ _ => some s
  | .own _ => none

/-- The cache after a change of its store, which it must share. -/
def withStore (c : Cache) (change : SharedStore → Outcome SharedStore) : Outcome Cache :=
  match c.store with
  | .shared s tag lifetime => do return { c with store := .shared (← change s) tag lifetime }
  | .own _ => Call.unknown

def isBlank (c : Cache) : Bool :=
  match c.store with
  | .own documents => documents.isEmpty
  | .shared .. => false

def modified (s : Cache) (c : Call) : Option (Outcome Cache) :=
  s.vocabulary.checked c (match c.name with
    | "put" => some (do
        let key ← c.required 0 "key"
        if s.enabled then s.checkKey key
        return s.put key (← c.required 1 "value"))
    | "forget" => some (do
        let key ← c.required 0 "key"
        if !s.isBlank then s.checkKey key
        s.forget key)
    | "flush" => some s.flush
    | "enable" => some (.ok { s with enabled := true })
    | "disable" => some (.ok { s with enabled := false })
    | "fail" =>
      some (s.withStore fun store => .ok { store with reachable := !(c.optional 0 "").isTrue })
    | "store_raw" => some (s.withStore fun store => do
        let key ← c.label 0 "key"
        return { store with texts := store.texts.put key (← c.label 1 "", none) })
    | _ => none)

def answer (s : Cache) (c : Call) : Outcome Value := do
  s.vocabulary.check c
  match c.name with
  | "has" | "get" =>
    let key ← c.required 0 "key"
    if s.enabled then s.checkKey key
    if c.name == "has" then return .bool (s.has key) else s.get key
  | "is_enabled" => return .bool s.enabled
  | "all" => return .object (← s.all)
  | "keys" => return .list (← s.all).keys
  | "size" => return .int (← s.size)
  | "tables" =>
    return .list ((← s.all).values.map fun v =>
      .list ((v.member "tables").elements.map (·.member "name")))
  | "stored" => match s.sharedStore? with
    | some store =>
      return .record (store.texts.mapValues fun (text, life) => .list [text, life.getD .null])
    | none => Call.unknown
  | _ => Call.unknown

end Cache

/-- The files that a script declares, all written at one moment. -/
def Files.ofScript (moment : Int) (v : Value) : Files :=
  .ofPaths (v.members.map fun (path, content) => (path.toText, ⟨match content with
    | .text s => s
    | content => content.json, moment⟩))

namespace Schema

def vocabulary : Vocabulary where
  calls := Vocabulary.questions ["get_all_tables", "connections"] ++
    [("resolve_table", .upTo ["identifier"] ["prefer_provider"]),
     ("resolve_table_by_name", .exactly ["name"]), ("get_relations", .exactly ["identifier"]),
     ("get_dimensions", .exactly ["identifier"]), ("has_table", .exactly ["identifier"]),
     ("get_tables_on_connection", .exactly ["connection_key"]),
     ("get_table_provider", .exactly ["identifier"])] ++
    Vocabulary.unchecked ["get_connections_for_metrics"]
  fields := []

/-- Answers a question about a schema; `metrics` are those that the question names. -/
def answer (s : Schema) (metrics : List MetricSource) (c : Call) : Outcome Value := do
  vocabulary.check c
  let identifier := c.key 0 "identifier"
  let view (t : Option Table) : Value := .ofText? (t.map (·.identifier))
  match c.name with
  | "resolve_table" => return view (← s.find (← identifier) (c.optional 1 "prefer_provider"))
  | "resolve_table_by_name" => return view (s.named? (← c.key 0 "name"))
  | "get_relations" => return .list (← s.relations (← identifier)).keys
  | "get_dimensions" => return .list (← s.dimensions (← identifier)).keys
  | "get_tables_on_connection" => return .texts (s.onConnection (← c.key 0 "connection_key"))
  | "get_all_tables" => return .texts s.tables.keys
  | "has_table" => return .bool (s.has (← identifier))
  | "connections" => return .texts s.connections.keys
  | "get_table_provider" => return .ofText? (s.provider? (← identifier))
  | "get_connections_for_metrics" => return .texts (connectionsFor metrics)
  | _ => Call.unknown

end Schema

namespace Provider

def isCatalogScript (v : Value) : Bool := (v.member "type").isText "catalog"

def catalogOfScript (v : Value) : Outcome Catalog := do
  let name ← Value.required v.members "name"
  let paths ← (← (← Value.required v.members "paths").toItems).mapM fun
    | .text path => pure path
    | _ => fail .wrongType
  return .unscanned name.toText paths (v.member "connection")

def ofScript (v : Value) : Outcome Provider :=
  if isCatalogScript v then catalog <$> catalogOfScript v else fixed <$> Source.ofScript v

def vocabulary (p : Provider) : Vocabulary where
  calls := Vocabulary.questions ["name"] ++
    [("strip_prefix", .exactly ["identifier"]), ("get_table", .exactly ["identifier"]),
     ("relations", .exactly ["table_name"]), ("dimensions", .exactly ["table_name"]),
     ("provides", .exactly ["identifier"]), ("resolve_metric_source", .exactly ["reference"])] ++
    Vocabulary.unchecked ["tables"] ++
    (match p with
      | .fixed s => if s.kind = .listed then [] else Vocabulary.unchecked ["add_table"]
      | .catalog _ => Vocabulary.questions ["scan", "rescan", "is_cache_valid"] ++
          Vocabulary.unchecked ["discovered", "paths"])
  fields := []

end Provider

/-- Whether a list or an object holds a text. -/
def Value.holds (v : Value) (s : String) : Bool :=
  match v with
  | .list items => items.any (·.isText s)
  | .object fields => fields.any (·.1.isText s)
  | _ => false

/-- A reference, which should be a text. A collection is taken whole unless it holds one of the
marks at which references are cut; `whole` tells what becomes of it. -/
def Value.reference {α : Type} (v : Value) (marks : List String) (ofText : String → Outcome α)
    (whole : Outcome α) : Outcome α :=
  match v with
  | .text s => ofText s
  | .list _ | .object _ => if marks.any v.holds then Call.unknown else whole
  | _ => fail .wrongType

/-- A reference in two parts. -/
def Registry.splitValue (v : Value) : Outcome Value :=
  v.reference [":"] (fun s =>
    let (provider, rest) := splitReference s
    .ok (.list [.ofText? provider, .text rest])) (.ok (.list [.null, v]))

/-- The identifier that a provider is asked about. A provider with an index looks for a colon first,
which a number does not have. -/
def Provider.provided (p : Provider) (v : Value) : Outcome String :=
  if p.source.kind = .listed then v.onlyText else v.reference [] .ok Call.unknown

namespace LiveRegistry

/-- The identifier that a value names. Every provider refuses one that is no text. -/
def identifier (r : LiveRegistry) (v : Value) : Outcome String :=
  v.reference [":"] .ok
    (if r.providers.isEmpty then refuse (.tableNotFound v .null (some []) .null)
    else Call.unknown)

def metricReference (v : Value) : Outcome String :=
  v.reference [":", "."] .ok (refuse (.referenceNotFound v
    "expected 'table.column' or 'provider:table.column'" .null))

end LiveRegistry

def LiveRegistry.vocabulary : Vocabulary where
  calls := Vocabulary.questions ["available_tables"] ++
    [("resolve_table", .exactly ["identifier"]), ("can_resolve", .exactly ["identifier"]),
     ("resolve_metric_source", .exactly ["reference"]), ("get_provider", .exactly ["name"])] ++
    Vocabulary.unchecked ["register", "normalize_metrics", "all_tables", "providers",
      "split_reference", "compiled", "from_tables", "provider", "unbooted", "cache", "write",
      "touch", "remove"]
  fields := []

end Datacube
