import Datacube.Value.Reading

/-!
# Dimensions

A dimension is a column by which results are grouped. Its reference is a column name, or
`table.column` to pin the owning table. There are five kinds: plain ones, time buckets, texts with
known values, truth values and enumerations. `document` and `ofDocument` write and read the form in
which catalogs store them.
-/

namespace Datacube
open Text

/-- What a kind of dimension adds to the common attributes. -/
inductive DimensionDetail where
  | plain
  | time (granularity : String) (precision : Value)
  | string (values : List Value)
  | boolean
  | enum (className : Value) (cases : List Value)

/-- A groupable column. An unset label is null; an explicit name replaces the column's name. -/
structure Dimension where
  reference : String
  label : Value
  type : Value
  metadata : Value
  filters : Value
  explicitName : Value
  detail : DimensionDetail

/-- The kinds of dimensions. -/
inductive DimensionKind where
  | plain
  | time
  | string
  | boolean
  | enum
  deriving DecidableEq, Repr

namespace DimensionKind

def all : List DimensionKind := [plain, time, string, boolean, enum]

def name : DimensionKind → String
  | plain => "dimension"
  | time => "time"
  | string => "string"
  | boolean => "boolean"
  | enum => "enum"

def ofName? (s : String) : Option DimensionKind := all.find? (·.name == s)

def title : DimensionKind → String
  | plain => "Dimension"
  | time => "TimeDimension"
  | string => "StringDimension"
  | boolean => "BooleanDimension"
  | enum => "EnumDimension"

/-- The type tag of a kind unless another one is given. -/
def defaultType : DimensionKind → String
  | plain | string => "string"
  | time => "datetime"
  | boolean => "boolean"
  | enum => "enum"

def defaultDetail : DimensionKind → DimensionDetail
  | plain => .plain
  | time => .time "day" (.text "timestamp")
  | string => .string []
  | boolean => .boolean
  | enum => .enum .null []

/-- Whether a dimension of the second kind answers a request for the first: a plain request matches
every kind. -/
def admits (requested declared : DimensionKind) : Bool := requested = plain || requested = declared

end DimensionKind

def DimensionDetail.kind : DimensionDetail → DimensionKind
  | plain => .plain
  | time .. => .time
  | string .. => .string
  | boolean => .boolean
  | enum .. => .enum

def DimensionDetail.same : DimensionDetail → DimensionDetail → Bool
  | plain, plain | boolean, boolean => true
  | time g p, time g' p' => g == g' && p.same p'
  | string vs, string vs' => Value.sameItems vs vs'
  | enum c vs, enum c' vs' => c.same c' && Value.sameItems vs vs'
  | _, _ => false

namespace Dimension

def make (kind : DimensionKind) (reference : String) : Dimension :=
  { reference, label := .null, type := .text kind.defaultType, metadata := .object [],
    filters := .object [], explicitName := .null, detail := kind.defaultDetail }

/-- The values of an enumeration, of which equal ones count once. -/
def distinctCases (values : List Value) : List Value :=
  values.foldl (fun acc v => if acc.any (·.same v) then acc else acc ++ [v]) []

def ofEnumeration (reference className : String) (values : List Value) : Dimension :=
  { make .enum reference with detail := .enum (.text className) (distinctCases values) }

def kind (d : Dimension) : DimensionKind := d.detail.kind

/-- The column after the last point of a reference. -/
def columnOf (reference : String) : String :=
  match splitLast? '.' reference with
  | some (_, column) => column
  | none => reference

def column (d : Dimension) : String := columnOf d.reference

/-- The table in front of the last point of the reference. -/
def table? (d : Dimension) : Option String := (splitLast? '.' d.reference).map (·.1)

/-- The explicit name if there is one, else the column. -/
def name (d : Dimension) : Value := d.explicitName.orElse d.column

def key (d : Dimension) : String := d.kind.name ++ "::" ++ d.name.toText

def aliasName (d : Dimension) : Value := d.name

/-! ## Modified copies -/

def withName (d : Dimension) (name : Value) : Dimension := { d with explicitName := name }

def withLabel (d : Dimension) (label : Value) : Dimension := { d with label }

def withType (d : Dimension) (type : Value) : Dimension := { d with type }

def withMetadata (d : Dimension) (metadata : Value) : Outcome Dimension := do
  return { d with metadata := .object (← metadata.toFields) }

def onTable (d : Dimension) (table : String) : Dimension :=
  { d with reference := table ++ "." ++ d.column }

def addFilter (d : Dimension) (key : String) (v : Value) : Outcome Dimension :=
  match d.filters with
  | .object fields => .ok { d with filters := .object (Entries.put fields (.text key) v) }
  | _ => fail .wrongType

def only (d : Dimension) (values : Value) : Outcome Dimension := do
  d.addFilter "only" (.list (← values.toItems))

def except (d : Dimension) (values : Value) : Outcome Dimension := do
  d.addFilter "except" (.list (← values.toItems))

/-- Keeps the rows that a comparison holds for. -/
def filtered (d : Dimension) (operator value : Value) : Outcome Dimension :=
  d.addFilter "where" (.record [("operator", operator), ("value", value)])

def hasFilters (d : Dimension) : Bool := d.filters.isTrue

/-- A time dimension with another granularity, in lower case. -/
def withGranularity (d : Dimension) (granularity : String) : Outcome Dimension :=
  match d.detail with
  | .time _ precision => .ok { d with detail := .time (lower granularity) precision }
  | _ => fail .noSuchMember

def withPrecision (d : Dimension) (precision : String) : Outcome Dimension :=
  match d.detail with
  | .time granularity _ => .ok { d with detail := .time granularity (.text precision) }
  | _ => fail .noSuchMember

def withValues (d : Dimension) (values : Value) : Outcome Dimension :=
  match d.detail with
  | .string _ => do return { d with detail := .string (← values.toItems) }
  | _ => fail .noSuchMember

/-- A text dimension with one more known value. -/
def addValue (d : Dimension) (value : Value) : Outcome Dimension :=
  match d.detail with
  | .string values => .ok { d with detail := .string (values ++ [value]) }
  | _ => fail .noSuchMember

def withClassName (d : Dimension) (className : Value) : Outcome Dimension :=
  match d.detail with
  | .enum _ cases => .ok { d with detail := .enum className cases }
  | _ => fail .noSuchMember

def withCases (d : Dimension) (cases : Value) : Outcome Dimension :=
  match d.detail with
  | .enum className _ => do return { d with detail := .enum className (← cases.toItems) }
  | _ => fail .noSuchMember

/-! ## Display -/

def displayTuple (values : List Value) : String :=
  "(" ++ join ", " (values.map Value.quoted) ++ (if values.length == 1 then ",)" else ")")

/-- The attributes that a kind shows besides the common ones. -/
def displayDetail : DimensionDetail → List (String × String)
  | .plain | .boolean => []
  | .time granularity precision =>
    [("granularity", quotedText granularity), ("precision", precision.quoted)]
  | .string values => [("values", displayTuple values)]
  | .enum className cases => [("enum_class", className.quoted), ("cases", displayTuple cases)]

def display (d : Dimension) : String :=
  let attributes := [("reference", quotedText d.reference), ("label", d.label.quoted),
    ("type", d.type.quoted), ("meta", d.metadata.quoted), ("filters", d.filters.quoted),
    ("display_name", d.explicitName.quoted)] ++ displayDetail d.detail
  d.kind.title ++ "(" ++ join ", " (attributes.map fun a => a.1 ++ "=" ++ a.2) ++ ")"

/-! ## Documents -/

/-- The fields that a kind adds to the document. -/
def detailFields : DimensionDetail → List (String × Value)
  | .plain | .boolean => []
  | .time granularity precision => [("granularity", .text granularity), ("precision", precision)]
  | .string values => [("values", .list values)]
  | .enum className cases => [("enumClass", className), ("cases", .list cases)]

def document (d : Dimension) : Outcome Value := do
  let metadata ← d.metadata.toFields
  let filters ← d.filters.toFields
  return .record ([("kind", .text d.kind.name), ("reference", .text d.reference),
    ("name", d.name), ("label", d.label.orElse d.name), ("column", .text d.column),
    ("type", d.type), ("meta", .object metadata), ("filters", .object filters)] ++
    detailFields d.detail)

/-- The first of the fields that is set, where the last one must exist. -/
def firstSet (fields : Entries Value Value) : List String → Outcome Value
  | [] => fail .missingKey
  | [key] => Value.required fields key
  | key :: rest =>
    let v := Value.optional fields key
    if v.isTrue then .ok v else firstSet fields rest

def detailOf (kind : DimensionKind) (fields : Entries Value Value) : Outcome DimensionDetail :=
  let field := Value.named? fields
  match kind with
  | .plain => .ok .plain
  | .boolean => .ok .boolean
  | .time => .ok (.time (lower ((field "granularity").getD (.text "day")).toText)
      ((field "precision").getD (.text "timestamp")))
  | .string => do return .string (← ((field "values").getD (.list [])).toItems)
  | .enum => do
    let className := ((field "enumClass").or (field "enum_class")).getD .null
    return .enum className (← ((field "cases").getD (.list [])).toItems)

def kindOf (fields : Entries Value Value) : Outcome DimensionKind :=
  match Value.named? fields "kind" with
  | none => .ok .plain
  | some (.text s) => match DimensionKind.ofName? s with
    | some kind => .ok kind
    | none => .error (.badValue ("Unknown dimension kind: " ++ s))
  | some v =>
    -- Kinds are looked up by the value, which fails for what is no key.
    if v.isKey then .error (.badValue ("Unknown dimension kind: " ++ v.toText))
    else fail .wrongType

/-- Reads a dimension. A label equal to the name and a name equal to the column are not kept as
explicit ones. -/
def ofDocument (v : Value) : Outcome Dimension := do
  let fields ← v.objectFields
  let field := Value.named? fields
  let kind ← kindOf fields
  match ← firstSet fields ["reference", "column", "name"] with
  | .text reference =>
    let column := columnOf reference
    let name := Value.optional fields "name"
    let label := Value.optional fields "label"
    let shown := name.orElse (.text column)
    return {
      reference
      label := if label.same shown then .null else label
      type := (field "type").getD (.text kind.defaultType)
      metadata := (field "meta").getD (.object [])
      filters := (field "filters").getD (.object [])
      explicitName := if name.isTrue && !name.isText column then name else .null
      detail := ← detailOf kind fields }
  | _ => fail .noSuchMember

/-- Whether two dimensions agree in kind and in every attribute. -/
def same (a b : Dimension) : Bool :=
  a.reference == b.reference && a.label.same b.label && a.type.same b.type &&
    a.metadata.same b.metadata && a.filters.same b.filters && a.explicitName.same b.explicitName &&
    a.detail.same b.detail

end Dimension

/-! ## Catalogs -/

abbrev DimensionCatalog := Entries Value Dimension

namespace DimensionCatalog

def ofDimensions (dimensions : List Dimension) : DimensionCatalog :=
  Entries.ofPairs (dimensions.map fun d => (.text d.key, d))

/-- The dimensions that answer requests for a kind. -/
def ofKind (catalog : DimensionCatalog) (kind : DimensionKind) : DimensionCatalog :=
  catalog.filter fun e => kind.admits e.2.kind

/-- Both catalogs; the second wins where they share a key. -/
def merge (catalog other : DimensionCatalog) : DimensionCatalog := catalog.putAll other

/-- Whether two catalogs hold equal dimensions under the same keys. -/
def same (a b : DimensionCatalog) : Bool :=
  a.length == b.length && a.all fun e => match b.get? e.1 with
    | some d => e.2.same d
    | none => false

def document (catalog : DimensionCatalog) : Outcome Value := do
  return .object (← catalog.mapM fun e => do return (e.1, ← e.2.document))

/-- Reads a catalog; what counts as absent is an empty one. -/
def ofDocument (v : Value) : Outcome DimensionCatalog := do
  if !v.isTrue then return []
  (← v.objectFields).mapM fun e => do return (e.1, ← Dimension.ofDocument e.2)

end DimensionCatalog
end Datacube
