import Datacube.Cache.Basic
import Datacube.Log.Basic

/-!
# Settings

The settings of a session with their defaults. They are read from named values, which are checked
one by one: every value that does not fit is reported with its field and the kind of mismatch. Texts
stand for numbers and truth values where they are written like one.
-/

namespace Datacube
open Text

/-- The settings. -/
structure Settings where
  cacheEnabled : Bool
  cacheBackend : String
  cacheAddress : Option String
  cacheTag : String
  cacheLifetime : Option Int
  joinType : String
  catalogName : String
  catalogPaths : List String
  catalogConnection : Option String
  logLevel : String
  logFormat : String

/-- What does not fit: the place below the field, and the kind of mismatch. -/
abbrev Mismatch := List (String × String)

abbrev Checked (α : Type) := Except Mismatch α

namespace Settings

def mismatch {α : Type} (kind : String) : Checked α := .error [("", kind)]

/-- The texts that stand for truth values. -/
def truthWords : List (String × Bool) :=
  (["1", "on", "t", "true", "y", "yes"].map (·, true)) ++
  (["0", "off", "f", "false", "n", "no"].map (·, false))

/-- The least whole number beyond those that are read from floats. -/
def wholeBound : Int := 9223372036854775808

/-- The truth value of a whole number. -/
def truthOf (n : Int) : Checked Bool :=
  if n = 0 then .ok false
  else if n = 1 then .ok true
  else mismatch (if -wholeBound < n && n < wholeBound then "bool_parsing" else "bool_type")

/-- A truth value, or a text or number that stands for one. -/
def asTruth (v : Value) : Checked Bool :=
  match v with
  | .bool b => .ok b
  | .text s => match truthWords.lookup (lower s) with
    | some b => .ok b
    | none => mismatch "bool_parsing"
  | .int n => if n = -wholeBound then mismatch "bool_parsing" else truthOf n
  | .float x => ((Number.wholePart? x).map truthOf).getD (mismatch "bool_type")
  | .decimal d => ((d.toFloat?.bind Number.wholePart?).map truthOf).getD (mismatch "bool_type")
  | _ => mismatch "bool_type"

def asText (v : Value) : Checked String :=
  match v with
  | .text s => .ok s
  | _ => mismatch "string_type"

def asOneOf (choices : List String) (v : Value) : Checked String := do
  let s ← asText v
  if choices.contains s then return s else mismatch "string_pattern_mismatch"

/-- A text, or none for null. -/
def asText? (v : Value) : Checked (Option String) :=
  if v.isNull then .ok none else some <$> asText v

/-- Digits between which single underscores may stand. -/
def digits? (chars : List Char) : Option (List Char) :=
  let groups := cutAll '_' chars
  if groups.all fun g => !g.isEmpty && g.all Char.isDigit then some groups.flatten else none

/-- Whether a character is a blank at the end of a number; separators of records are none. -/
def isPadding (c : Char) : Bool := isBlank c && !('\x1c' ≤ c && c ≤ '\x1f')

/-- The whole number that a text stands for; zeros may follow a point. -/
def wholeNumber? (s : String) : Option Int :=
  let chars := ((s.toList.dropWhile isPadding).reverse.dropWhile isPadding).reverse
  let (negative, unsigned) := match chars with
    | '+' :: rest => (false, rest)
    | '-' :: rest => (true, rest)
    | _ => (false, chars)
  let whole := match cutFirst? '.' unsigned with
    | some (whole, places) =>
      if !places.isEmpty && places.all (· = '0') then whole else unsigned
    | none => unsigned
  (digits? whole).map fun digits =>
    let n : Int := Number.digitsValue digits
    if negative then -n else n

/-- The greatest number of digits of a text that is read as a whole number. -/
def mostDigits : Nat := 4300

/-- Whether a text is a whole number with too many digits. -/
def isTooLong (s : String) : Bool :=
  let digits := (Number.signThen s.toList).2
  digits.length > mostDigits && s.toList.head? ≠ some '+' && digits.head? ≠ some '0' &&
    digits.all Char.isDigit

def wholeOf (x : Float) : Checked Int :=
  match Number.wholePart? x with
  | some n => if -wholeBound < n && n < wholeBound then .ok n else mismatch "int_parsing_size"
  | none => mismatch (if Number.isFiniteFloat x then "int_from_float" else "finite_number")

/-- The whole number that a decimal is equal to. -/
def wholeOfDecimal : Decimal → Checked Int
  | .finite negative coefficient exponent =>
    let unit := Nat.pow 10 (-exponent).toNat
    let n : Int := coefficient / unit * Nat.pow 10 exponent.toNat
    if coefficient % unit = 0 then .ok (if negative then -n else n) else mismatch "int_from_float"
  | _ => mismatch "finite_number"

/-- A whole number, or a text or number that stands for one. -/
def asWhole (v : Value) : Checked Int :=
  match v with
  | .int n => .ok n
  | .bool b => .ok (if b then 1 else 0)
  | .float x => wholeOf x
  | .nan _ => mismatch "finite_number"
  | .decimal d => wholeOfDecimal d
  | .text s =>
    if isTooLong s then mismatch "int_parsing_size"
    else match wholeNumber? s with
      | some n => .ok n
      | none => mismatch "int_parsing"
  | _ => mismatch "int_type"

/-- A whole number, or none for null. -/
def asWhole? (v : Value) : Checked (Option Int) :=
  if v.isNull then .ok none else some <$> asWhole v

def itemMismatches (items : List Value) : Mismatch :=
  items.zipIdx.filterMap fun (v, i) => match v with
    | .text _ => none
    | _ => some ("." ++ toString i, "string_type")

def asTexts (v : Value) : Checked (List String) :=
  match v with
  | .list items =>
    if (itemMismatches items).isEmpty then .ok (items.map Value.toText)
    else .error (itemMismatches items)
  | _ => mismatch "list_type"

/-- A field: the checked value, the default where none is given, and what does not fit. -/
def checked {α : Type} (fields : Entries Value Value) (name : String) (default : α)
    (check : Value → Checked α) : α × Mismatch :=
  match Value.named? fields name with
  | none => (default, [])
  | some v => match check v with
    | .ok x => (x, [])
    | .error found => (default, found.map fun (place, kind) => (name ++ place, kind))

/-- The settings with the given values, all of which must fit. -/
def ofFields (fields : Entries Value Value) : Outcome Settings :=
  let enabled := checked fields "schema_cache_enabled" true asTruth
  let backend := checked fields "schema_cache_backend" "memory" (asOneOf ["memory", "redis"])
  let address := checked fields "redis_url" none asText?
  let tag := checked fields "schema_cache_prefix" "slice:schema:" asText
  let lifetime := checked fields "schema_cache_ttl_seconds" none asWhole?
  let joinType := checked fields "default_join_type" "left"
    (asOneOf ["left", "inner", "right", "full"])
  let name := checked fields "catalog_name" "catalog" asText
  let paths := checked fields "catalog_paths" [] asTexts
  let connection := checked fields "catalog_connection" none asText?
  let level := checked fields "log_level" "INFO" asText
  let format := checked fields "log_format" Log.defaultFormat asText
  let found := enabled.2 ++ backend.2 ++ address.2 ++ tag.2 ++ lifetime.2 ++ joinType.2 ++ name.2 ++
    paths.2 ++ connection.2 ++ level.2 ++ format.2
  if found.isEmpty then
    .ok ⟨enabled.1, backend.1, address.1, tag.1, lifetime.1, joinType.1, name.1, paths.1,
      connection.1, level.1, format.1⟩
  else .error (.invalidFields (found.mergeSort fun a b => !(b.1 < a.1)))

def names : List String :=
  ["schema_cache_enabled", "schema_cache_backend", "redis_url", "schema_cache_prefix",
   "schema_cache_ttl_seconds", "default_join_type", "catalog_name", "catalog_paths",
   "catalog_connection", "log_level", "log_format"]

def document (s : Settings) : Value :=
  .record [("schema_cache_enabled", .bool s.cacheEnabled),
    ("schema_cache_backend", .text s.cacheBackend), ("redis_url", .ofText? s.cacheAddress),
    ("schema_cache_prefix", .text s.cacheTag),
    ("schema_cache_ttl_seconds", match s.cacheLifetime with
      | some n => .int n
      | none => .null),
    ("default_join_type", .text s.joinType), ("catalog_name", .text s.catalogName),
    ("catalog_paths", .texts s.catalogPaths),
    ("catalog_connection", .ofText? s.catalogConnection), ("log_level", .text s.logLevel),
    ("log_format", .text s.logFormat)]

def cache (s : Settings) : Outcome Cache :=
  if s.cacheBackend == "redis" then do
    return .sharing s.cacheEnabled (← SharedStore.atAddress s.cacheAddress) s.cacheTag
      (s.cacheLifetime.map .int)
  else .ok (.empty s.cacheEnabled)

end Settings
end Datacube
