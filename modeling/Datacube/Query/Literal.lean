import Datacube.Dialect
import Datacube.Value.Text

/-!
# Literals

ClickHouse writes a text in single quotes with a backslash in front of quotes and backslashes. The
other dialects double the quote. A negative number is the sign and the literal of its absolute
value.
-/

namespace Datacube.Query.Literal
open Text

/-! ## ClickHouse -/

/-- A character inside quotes. -/
def escapeChar (c : Char) : List Char := if c = '\\' || c = '\'' then ['\\', c] else [c]

def quoteText (s : String) : String :=
  String.ofList ('\'' :: s.toList.flatMap escapeChar ++ ['\''])

/-- Reads the body of a quoted text back. -/
def unescape : List Char → List Char
  | [] => []
  | '\\' :: c :: rest => c :: unescape rest
  | c :: rest => c :: unescape rest

/-- A value as a literal; truth values are numbers. -/
def clickhouse : Value → String
  | .null => "NULL"
  | .bool b => if b then "1" else "0"
  | .int n => toString n
  | .float x => Number.floatText x
  | .nan _ => "nan"
  | v => quoteText v.toText

/-! ## The other dialects -/

/-- The literal of a number: a negative one is the sign and the absolute value as a calculation
gives it. -/
def number (d : Decimal) (text : String) : String :=
  match d.isBelowZero?, d.absoluteText? with
  | some true, some size => "-" ++ size
  | _, _ => text

def floatNumber (x : Float) : String :=
  let text := Number.floatText x
  match Decimal.ofText? text with
  | some d => number d text
  | none => text

/-- A truth value. SQL Server has none: where one is compared it is a number, elsewhere a
condition. -/
def truth (d : Dialect) (compared b : Bool) : String :=
  if d = .sqlserver then
    if compared then (if b then "1" else "0") else if b then "(1 = 1)" else "(1 = 0)"
  else if b then "TRUE" else "FALSE"

def array (d : Dialect) (items : List String) : String :=
  match d with
  | .postgres => "ARRAY[" ++ join ", " items ++ "]"
  | .duckdb | .clickhouse => "[" ++ join ", " items ++ "]"
  | _ => "ARRAY(" ++ join ", " items ++ ")"

mutual

def standard (d : Dialect) (compared : Bool) : Value → String
  | .null | .nan _ => "NULL"
  | .bool b => truth d compared b
  | .int n => toString n
  | .float x => floatNumber x
  | .decimal x => number x x.text
  | .text s => d.literal s
  | .list items => array d (standardAll d items)
  | .object fields =>
    let keys := standardKeys d fields
    let values := standardFields d fields
    if d = .clickhouse then
      "map(" ++ join ", " ((keys.zip values).flatMap fun (k, v) => [k, v]) ++ ")"
    else "MAP(" ++ array d keys ++ ", " ++ array d values ++ ")"

def standardAll (d : Dialect) : List Value → List String
  | [] => []
  | v :: rest => standard d false v :: standardAll d rest

def standardKeys (d : Dialect) : List (Value × Value) → List String
  | [] => []
  | (key, _) :: rest => standard d false key :: standardKeys d rest

def standardFields (d : Dialect) : List (Value × Value) → List String
  | [] => []
  | (_, v) :: rest => standard d false v :: standardFields d rest

end

end Datacube.Query.Literal
