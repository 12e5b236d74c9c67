import Datacube.Cache.Basic
import Datacube.Catalog.Document
import Datacube.Schema.Source

/-!
# Catalogs

A catalog is a provider whose tables are declared in files. It is scanned once and then answers from
what it found. What a scan found is kept in a cache under a key of the name and the places of the
files; it counts until one of the files is written anew.
-/

namespace Datacube
open Text

/-- A catalog: where its tables are declared, what was found, and how often it was scanned.
`cached` tells whether it was given a cache. -/
structure Catalog where
  name : String
  paths : List String
  connection : Value
  tables : List Table
  scanned : Bool
  cached : Bool
  attempts : Nat
  completed : Nat

namespace Catalog

def unscanned (name : String) (paths : List String) (connection : Value) : Catalog :=
  ⟨name, paths, connection, [], false, false, 0, 0⟩

/-- What the catalog found, as a source of tables. -/
def source (c : Catalog) : Source := ⟨c.name, .indexed, c.connection, c.tables⟩

/-! ## Scanning -/

/-- Adds a declared table to those found before; of two tables of one name the later one counts. -/
def addDocument (c : Catalog) (found : List Table) (v : Value) : Outcome (List Table) := do
  let t ← Table.ofDocument c.name c.connection v
  if t.name.isKey then return Source.insertTable found t else fail .wrongType

def discover (files : Files) (c : Catalog) : Outcome (List Table) :=
  c.paths.foldlM (fun found path => do (← tablesOfFile files path).foldlM c.addDocument found) []

/-- Scans the files unless that was done. A scan that fails leaves what was found before. -/
def scan (files : Files) (c : Catalog) : Outcome Unit × Catalog :=
  if c.scanned then (.ok (), c)
  else match c.discover files with
    | .ok tables => (.ok (), { c with
        tables, scanned := true, attempts := c.attempts + 1, completed := c.completed + 1 })
    | .error e => (.error e, { c with attempts := c.attempts + 1 })

/-! ## The cache -/

def cacheKey (c : Catalog) : String :=
  "catalog_schema_" ++
    join "|" (c.name :: (c.paths.map Files.absolute).mergeSort (fun a b => !(b < a)))

/-- What was found, as a document that a cache can keep. -/
def snapshot (now : Int) (c : Catalog) : Outcome Value := do
  return .record [("provider", .text c.name), ("paths", .texts (c.paths.map Files.label)),
    ("tables", .list (← c.tables.mapM Table.document)), ("cached_at", .int now)]

/-- The catalog with what such a document holds. -/
def restore (c : Catalog) (v : Value) : Outcome Catalog := do
  let items ← match Value.named? (← v.objectFields) "tables" with
    | some tables => tables.toItems
    | none => pure []
  return { c with tables := ← items.foldlM c.addDocument [], scanned := true }

/-- Whether no file was written after a moment. A file that cannot be reached counts as written. -/
def unchangedSince (files : Files) (c : Catalog) (moment : Value) : Outcome Bool :=
  c.paths.allM fun path => match files.file path with
    | .error _ => .ok false
    | .ok f => match (Value.int f.modified).compare? moment with
      | some order => .ok (order != .greater)
      | none => fail .wrongType

def isCacheValid (files : Files) (c : Catalog) (cache : Cache) : Outcome Bool := do
  if !c.cached then return false
  let v ← cache.get c.cacheKey
  if !v.isTrue then return false
  c.unchangedSince files ((Value.named? (← v.objectFields) "cached_at").getD (.int 0))

def store (now : Int) (c : Catalog) (cache : Cache) : Outcome Unit × Catalog × Cache :=
  match c.snapshot now with
  | .ok v => (.ok (), c, cache.put c.cacheKey v)
  | .error e => (.error e, c, cache)

/-- Scans, and keeps the result if the cache is to be used. -/
def scanInto (files : Files) (now : Int) (c : Catalog) (cache : Cache) (use : Bool) :
    Outcome Unit × Catalog × Cache :=
  match c.scan files with
  | (.error e, c) => (.error e, c, cache)
  | (.ok (), c) => if use then c.store now cache else (.ok (), c, cache)

/-- The catalog with what a cache keeps of it, if that still counts. -/
def restored (files : Files) (c : Catalog) (cache : Cache) : Outcome (Option Catalog) := do
  if cache.has c.cacheKey && (← c.isCacheValid files cache) then
    return some (← c.restore (← cache.get c.cacheKey))
  else return none

/-- Gives the catalog a cache: what that keeps is restored if it still counts, and otherwise the
files are scanned. There is no key for what is no path. -/
def boot (files : Files) (now : Int) (c : Catalog) (cache : Cache) :
    Outcome Unit × Catalog × Cache :=
  let c := { c with cached := true }
  if !c.paths.all Files.isPath then (fail .badValue, c, cache)
  else match c.restored files cache with
    | .error e => (.error e, c, cache)
    | .ok (some c) => (.ok (), c, cache)
    | .ok none => c.scanInto files now cache cache.enabled

/-- Scans again, whatever was found before. -/
def rescan (files : Files) (now : Int) (c : Catalog) (cache : Cache) :
    Outcome Unit × Catalog × Cache :=
  { c with scanned := false }.scanInto files now cache (c.cached && cache.enabled)

end Catalog
end Datacube
