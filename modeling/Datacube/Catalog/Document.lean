import Datacube.Catalog.Files
import Datacube.Value.Reading
import Datacube.Yaml.Document

/-!
# Catalog documents

A catalog file holds a mapping with the tables under one key: as a mapping from names to tables, or
as a list of tables that carry their names themselves.
-/

namespace Datacube.Catalog

/-- The table of an entry. One without a name takes the key of the entry. -/
def tableOfEntry (name v : Value) : Outcome Value := do
  let fields ← if v.isTrue then v.toFields else pure []
  return .object (Entries.putNew fields "name" name)

/-- The tables of a catalog document. An empty document has none. -/
def tablesOf (path : String) (v : Value) : Outcome (List Value) := do
  if !v.isTrue then return []
  match Value.named? (← v.objectFields) "tables" with
  | none => return []
  | some (.object tables) => tables.mapM fun (name, table) => tableOfEntry name table
  | some (.list tables) => tables.mapM fun table => .object <$> table.toFields
  | some _ => refuse (.catalogUnreadable (Files.label path) "'tables' must be a mapping or a list")

def tablesOfFile (files : Files) (path : String) : Outcome (List Value) := do
  match Value.ofYaml (← files.file path).text with
  | .ok v => tablesOf path v
  | .error .malformed => refuse (.catalogUnreadable (Files.label path) "<yaml error>")
  | .error .hollowNumber => fail .badValue

end Datacube.Catalog
