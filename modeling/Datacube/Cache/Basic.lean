import Datacube.Cache.Address
import Datacube.Json.Reader
import Datacube.Json.Writer
import Datacube.Text.Pattern
import Datacube.Value.Reading

/-!
# Caches

A cache keeps documents under keys so that catalogs need not be read again. A local cache holds the
documents themselves. A shared one holds their JSON text in a store of which it owns the keys with
its own beginning; when the store cannot be reached, reading finds nothing and writing does nothing.
A cache that is switched off neither reads nor writes.
-/

namespace Datacube
open Text

/-- A store of texts by key, each with its lifetime in seconds if it has one. -/
structure SharedStore where
  texts : Entries String (String × Option Value)
  reachable : Bool

/-- Where the documents of a cache are kept. -/
inductive CacheStore where
  | own (documents : Entries Value Value)
  | shared (store : SharedStore) (tag : String) (lifetime : Option Value)

/-- A cache, which may be switched off. -/
structure Cache where
  enabled : Bool
  store : CacheStore

namespace SharedStore

def keysLike (s : SharedStore) (pattern : String) : List String :=
  s.texts.keys.filter (fits pattern)

/-- The store at an address. Nothing answers there. -/
def atAddress (address : Option String) : Outcome SharedStore :=
  match address with
  | none => refuse (.cacheFailed "RedisSchemaCache needs a url or a client" "redis")
  | some address =>
    if Address.isValid address then .ok ⟨[], false⟩ else fail .badValue

/-- The store, which has to be reached. -/
def reach (s : SharedStore) : Outcome SharedStore :=
  if s.reachable then .ok s else fail .connectionLost

def remove (s : SharedStore) (keys : List String) : SharedStore :=
  { s with texts := keys.foldl Entries.erase s.texts }

end SharedStore

namespace Cache

def empty (enabled : Bool) : Cache := ⟨enabled, .own []⟩

/-- A cache in a store. Its keys begin with a tag; a lifetime of zero is none. -/
def sharing (enabled : Bool) (store : SharedStore) (tag : String) (lifetime : Option Value) :
    Cache :=
  ⟨enabled, .shared store tag (lifetime.filter Value.isTrue)⟩

/-- Checks that a document can be kept under a key: locally a list or an object is none. -/
def checkKey (c : Cache) (key : Value) : Outcome Unit :=
  match c.store with
  | .own _ => if key.isKey then .ok () else fail .wrongType
  | .shared .. => .ok ()

def readText (s : String) : Outcome Value :=
  match Value.ofJson? s with
  | some v => .ok v
  | none => fail .badDocument

def put (c : Cache) (key v : Value) : Cache :=
  if !c.enabled then c
  else match c.store with
    | .own documents => { c with store := .own (documents.put key v) }
    | .shared s tag lifetime =>
      if s.reachable then
        let texts := s.texts.put (tag ++ key.toText) (v.json, lifetime)
        { c with store := .shared { s with texts := texts } tag lifetime }
      else c -- a store that does not answer is no reason to fail

/-- The document under a key; null for none. A stored text must be a document. -/
def get (c : Cache) (key : Value) : Outcome Value :=
  if !c.enabled then .ok .null
  else match c.store with
    | .own documents => .ok ((documents.get? key).getD .null)
    | .shared s tag _ =>
      if !s.reachable then .ok .null
      else match s.texts.get? (tag ++ key.toText) with
        | some (text, _) => readText text
        | none => .ok .null

def has (c : Cache) (key : Value) : Bool :=
  c.enabled && match c.store with
    | .own documents => documents.has key
    | .shared s tag _ => s.reachable && s.texts.has (tag ++ key.toText)

def forget (c : Cache) (key : Value) : Outcome Cache :=
  match c.store with
  | .own documents => .ok { c with store := .own (documents.erase key) }
  | .shared s tag lifetime => do
    return { c with store := .shared ((← s.reach).remove [tag ++ key.toText]) tag lifetime }

def ownKeys (s : SharedStore) (tag : String) : Outcome (List String) := do
  return (← s.reach).keysLike (tag ++ "*")

def flush (c : Cache) : Outcome Cache :=
  match c.store with
  | .own _ => .ok { c with store := .own [] }
  | .shared s tag lifetime => do
    return { c with store := .shared (s.remove (← ownKeys s tag)) tag lifetime }

/-- All documents by key. Through a shared store they are read one by one. -/
def all (c : Cache) : Outcome (Entries Value Value) :=
  match c.store with
  | .own documents => .ok documents
  | .shared s tag _ => do
    let keys ← ownKeys s tag
    let found ← keys.mapM fun full => do
      let key : Value := .text (String.ofList (full.toList.drop tag.length))
      return (key, ← c.get key)
    return .ofPairs (found.filter fun (_, v) => !v.isNull)

def size (c : Cache) : Outcome Nat :=
  match c.store with
  | .own documents => .ok documents.length
  | .shared s tag _ => do return (← ownKeys s tag).length

end Cache
end Datacube
