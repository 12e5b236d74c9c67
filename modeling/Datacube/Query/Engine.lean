import Datacube.Query.Build

/-!
# Engines

Drivers are made by the name of an engine, in any case, and a configuration. More engines can be
registered, which make a driver of their own.
-/

namespace Datacube
open Text

/-- What makes drivers. -/
inductive Engine where
  | sqlite
  | duckdb
  | clickhouse
  | custom (d : Driver)

abbrev Engines := Entries String Engine

namespace Engine

/-- A setting of a configuration; one that is missing is on. -/
def setting (config : Entries Value Value) (key : String) : Value :=
  (Value.named? config key).getD (.bool true)

def hasOnly (settings : List String) (config : Entries Value Value) : Bool :=
  config.keys.all fun key => settings.any key.isText

/-- The settings that a file database understands. -/
def fileSettings : List String := ["path", "name", "supports_ctes", "supports_joins"]

/-- Makes a driver. The path of a file database must be a text, and the ClickHouse engine needs a
client at hand. -/
def make (identity : String) (config : Entries Value Value) (hasClient : Bool) :
    Engine → Outcome Driver
  | sqlite => do
    let path := (Value.named? config "path").getD ":memory:"
    if !hasOnly fileSettings config then fail .wrongType
    let .text _ := path | fail .wrongType
    let d ← Dialect.ofName "sqlite"
    return ⟨identity, (Value.optional config "name").orElse d.name, d, .relational,
      setting config "supports_joins", setting config "supports_ctes"⟩
  | duckdb => refuse (.driverUnavailable "duckdb" "duckdb")
  | clickhouse =>
    if hasClient || !(Value.optional config "client").isNull then
      .ok ⟨identity, "clickhouse", .clickhouse, .clickhouse, .bool true, .bool true⟩
    else refuse (.driverUnavailable "clickhouse" "clickhouse-connect")
  | custom d => .ok d

end Engine

namespace Engines

def builtin : Engines :=
  [("sqlite", .sqlite), ("sqlite3", .sqlite), ("duckdb", .duckdb), ("clickhouse", .clickhouse),
   ("ch", .clickhouse)]

def register (es : Engines) (name : String) (e : Engine) : Engines := Entries.put es (lower name) e

def find (es : Engines) (name : String) : Outcome Engine :=
  match Entries.get? es (lower name) with
  | some e => .ok e
  | none => refuse (.driverNotFound name (some ((Entries.keys es).map .text)))

end Engines
end Datacube
