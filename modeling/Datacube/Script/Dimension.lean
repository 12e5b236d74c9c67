import Datacube.Schema.Dimension
import Datacube.Script.Vocabulary

/-!
# Dimensions in scripts

A dimension is declared by its kind and reference with calls that modify it, as a document, or over
the members of an enumeration.
-/

namespace Datacube

/-- The kind of a dimension by name; a plain one unless named. -/
def DimensionKind.ofValue : Value → Outcome DimensionKind
  | .null => .ok .plain
  | v => match DimensionKind.ofName? v.toText with
    | some kind => .ok kind
    | none => fail .missingKey

namespace Dimension

def granularityCalls : List (String × String) :=
  [("hourly", "hour"), ("daily", "day"), ("weekly", "week"), ("monthly", "month"),
   ("yearly", "year")]

/-- The granularities that a declaration may choose from. -/
def knownGranularities : List String :=
  ["year", "quarter", "month", "week", "day", "hour", "minute"]

def commonVocabulary : Vocabulary where
  calls :=
    Vocabulary.questions ["column", "table", "name", "key", "alias", "has_filters", "to_dict"] ++
    [("make", .exactly ["reference"]), ("with_name", .exactly ["name"]),
     ("with_label", .exactly ["label"]), ("with_type", .exactly ["type_tag"]),
     ("with_meta", .exactly ["meta"]), ("on_table", .exactly ["table"]),
     ("only", .exactly ["values"]), ("except_", .exactly ["values"]),
     ("where", .exactly ["operator", "value"])] ++
    Vocabulary.unchecked ["set_granularity_enum"]
  fields := ["reference", "label", "type", "meta", "filters", "display_name", "KIND"]

/-- What a kind of dimension understands besides. -/
def ownVocabulary : DimensionKind → Vocabulary
  | .plain | .boolean => ⟨[], []⟩
  | .time => {
      calls := ("set_granularity", .exactly ["granularity"]) ::
        Vocabulary.questions (granularityCalls.map (·.1) ++ ["as_date", "as_timestamp"])
      fields := ["granularity", "precision", "HOURLY", "DAILY", "WEEKLY", "MONTHLY", "YEARLY"] }
  | .string => {
      calls := [("with_values", .exactly ["values"]), ("add_value", .exactly ["value"])]
      fields := ["values"] }
  | .enum => {
      calls := [("with_enum_class", .exactly ["enum_class"]), ("with_cases", .exactly ["cases"]),
        ("from_enum", .exactly ["reference", "enum_cls"])]
      fields := ["enum_class", "cases"] }

def vocabulary (d : Dimension) : Vocabulary := commonVocabulary.extend (ownVocabulary d.kind)

/-- The modified copy that a call asks for, unless it asks for something else. -/
def edit? (d : Dimension) (c : Call) : Option (Outcome Dimension) :=
  match c.name with
  | "make" => some (do return .make d.kind (← c.text 0 "reference"))
  | "with_name" => some (do return d.withName (← c.required 0 "name"))
  | "with_label" => some (do return d.withLabel (← c.required 0 "label"))
  | "with_type" => some (do return d.withType (← c.required 0 "type_tag"))
  | "with_meta" => some (do d.withMetadata (← c.required 0 "meta"))
  | "on_table" => some (do return d.onTable (← c.label 0 "table"))
  | "only" => some (do d.only (← c.required 0 "values"))
  | "except_" => some (do d.except (← c.required 0 "values"))
  | "where" => some (do d.filtered (← c.required 0 "operator") (← c.required 1 "value"))
  | "as_date" => some (d.withPrecision "date")
  | "as_timestamp" => some (d.withPrecision "timestamp")
  | "set_granularity" => some (do d.withGranularity (← c.label 0 "granularity"))
  | "set_granularity_enum" => some (do
      let g ← c.label 0 "granularity"
      if knownGranularities.contains g then d.withGranularity g else fail .badValue)
  | "with_values" => some (do d.withValues (← c.required 0 "values"))
  | "add_value" => some (do d.addValue (← c.required 0 "value"))
  | "with_enum_class" => some (do d.withClassName (← c.required 0 "enum_class"))
  | "with_cases" => some (do d.withCases (← c.required 0 "cases"))
  | name => (granularityCalls.lookup name).map d.withGranularity

def modified (d : Dimension) (c : Call) : Option (Outcome Dimension) :=
  d.vocabulary.checked c (d.edit? c)

def answer (d : Dimension) (c : Call) : Outcome Value := do
  d.vocabulary.check c
  match c.name with
  | "key" => return .text d.key
  | "column" => return .text d.column
  | "table" => return .ofText? d.table?
  | "has_filters" => return .bool d.hasFilters
  | "name" | "alias" => return d.name
  | "to_dict" => d.document
  | "__repr__" => return .text d.display
  | _ => Call.unknown

/-- The dimension as a document, with its kind and what its reference says. -/
def summary (d : Dimension) : Outcome Value := do
  return (← d.document).adding [("cls", .text d.kind.title), ("key", .text d.key),
    ("alias", d.aliasName), ("table", .ofText? d.table?)]

/-- The dimension that a declaration starts from. -/
def declared (v : Value) : Outcome Dimension :=
  match v.field? "dict", v.field? "enum" with
  | some document, _ => ofDocument document
  | none, some e =>
    .ok (.ofEnumeration ((v.member "reference").textOr "")
      ((e.member "module").textOr "app.enums" ++ "." ++ (e.member "name").textOr "")
      ((e.member "members").elements.map fun
        | .list [_, member] => member
        | _ => .null))
  | none, none => do
    return .make (← DimensionKind.ofValue (v.member "cls"))
      (← (← Value.required v.members "reference").onlyText)

def ofScript (v : Value) : Outcome Dimension := do runScript modified (← declared v) v.calls

end Dimension

def displayKeys (type : String) (keys : List Value) : Value :=
  .text (type ++ "(" ++ (Value.list keys).quoted ++ ")")

namespace DimensionCatalog

/-- The catalog of a list of scripts, or of a document. -/
def ofScript : Value → Outcome DimensionCatalog
  | .list specs => do return .ofDimensions (← specs.mapM Dimension.ofScript)
  | v => DimensionCatalog.ofDocument v

def vocabulary : Vocabulary where
  calls := Vocabulary.questions ["all", "keys", "count", "is_empty", "to_dict", "__len__"] ++
    [("get", .exactly ["key"]), ("has", .exactly ["key"])] ++
    Vocabulary.unchecked ["names", "of_type", "add", "merge", "equals"]
  fields := []

def modified (catalog : DimensionCatalog) (c : Call) : Option (Outcome DimensionCatalog) :=
  match c.name with
  | "add" =>
    some (do return catalog.put (← c.key 0 "key") (← Dimension.ofScript (← c.required 1 "")))
  | "merge" => some (do return catalog.merge (← ofScript (← c.required 0 "")))
  | _ => none

def answer (catalog : DimensionCatalog) (c : Call) : Outcome Value := do
  vocabulary.check c
  match c.name with
  | "keys" => return .list catalog.keys
  | "names" => return .list (catalog.values.map (·.name))
  | "count" | "__len__" => return .int catalog.length
  | "is_empty" => return .bool catalog.isEmpty
  | "__repr__" => return displayKeys "DimensionCatalog" catalog.keys
  | "has" => return .bool (catalog.has (← c.key 0 "key"))
  | "get" => (catalog.get? (← c.key 0 "key")).elim (.ok .null) Dimension.summary
  | "all" => return .object (← catalog.mapM fun e => do return (e.1, ← e.2.summary))
  | "to_dict" => catalog.document
  | "of_type" => return .list (catalog.ofKind (← DimensionKind.ofValue (← c.required 0 "cls"))).keys
  | "equals" => return .bool (catalog.same (← ofScript (← c.required 0 "")))
  | _ => Call.unknown

end DimensionCatalog
end Datacube
