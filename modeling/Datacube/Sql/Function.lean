import Datacube.Sql.Expr

/-!
# Functions of SQL

The functions whose arguments are counted, with the names they share. A call is written under the
first name of its function; a call that takes too few or too many arguments is malformed. A function
that is not listed takes any arguments and keeps its name.
-/

namespace Datacube.Sql
open Text

/-- A function: its names, the canonical one first, and the least and the greatest number of its
arguments. -/
structure Function where
  names : List String
  least : Nat
  most : Option Nat

namespace Function

/-- Functions that take exactly so many arguments. -/
def exactly (n : Nat) (names : List (List String)) : List Function :=
  names.map (⟨·, n, some n⟩)

/-- Functions that take between so many and so many arguments. -/
def between (least most : Nat) (names : List (List String)) : List Function :=
  names.map (⟨·, least, some most⟩)

/-- Functions that take at least so many arguments. -/
def atLeast (n : Nat) (names : List (List String)) : List Function := names.map (⟨·, n, none⟩)

def known : List Function :=
  exactly 1 [["ABS"], ["SUM"], ["AVG"], ["MEDIAN"], ["STDDEV", "STDEV"], ["STDDEV_POP"],
    ["STDDEV_SAMP"], ["VARIANCE", "VARIANCE_SAMP", "VAR_SAMP"], ["VARIANCE_POP", "VAR_POP"],
    ["ANY_VALUE"], ["COUNT_IF", "COUNTIF"], ["LOGICAL_OR", "BOOL_OR", "BOOLOR_AGG"],
    ["LOGICAL_AND", "BOOL_AND", "BOOLAND_AGG"], ["FIRST"], ["LAST"], ["FIRST_VALUE"],
    ["LAST_VALUE"], ["SQRT"], ["CBRT"], ["EXP"], ["LN"], ["SIGN", "SIGNUM"], ["SIN"], ["COS"],
    ["TAN"], ["ASIN"], ["ACOS"], ["COT"], ["SINH"], ["COSH"], ["TANH"], ["DEGREES"], ["RADIANS"],
    ["UPPER", "UCASE"], ["LOWER", "LCASE"], ["REVERSE"], ["MD5"], ["YEAR"], ["MONTH"], ["DAY"],
    ["QUARTER"], ["HOUR"], ["MINUTE"], ["SECOND"], ["DAY_OF_WEEK", "DAYOFWEEK"],
    ["DAY_OF_MONTH", "DAYOFMONTH"], ["DAY_OF_YEAR", "DAYOFYEAR"], ["WEEK_OF_YEAR", "WEEKOFYEAR"],
    ["HEX"], ["UNHEX"], ["ASCII"], ["UNICODE"]] ++
  exactly 2 [["NULLIF"], ["POWER", "POW"], ["CORR"], ["COVAR_POP"], ["COVAR_SAMP"], ["NTH_VALUE"],
    ["LEFT"], ["RIGHT"], ["REPEAT"], ["ATAN2"]] ++
  between 0 1 [["RAND", "RANDOM"], ["ROW_NUMBER"], ["NTILE"]] ++
  between 1 2 [["LOG"], ["ATAN"], ["LAST_DAY", "LAST_DAY_OF_MONTH"], ["PERCENTILE_CONT"],
    ["PERCENTILE_DISC"], ["APPROX_DISTINCT", "APPROX_COUNT_DISTINCT"], ["WEEK"], ["EXISTS"],
    ["INITCAP"], ["TRUNC", "TRUNCATE"], ["LTRIM"], ["RTRIM"], ["TRIM"]] ++
  between 1 3 [["CEIL", "CEILING"], ["FLOOR"], ["LAG"], ["LEAD"],
    ["LENGTH", "LEN", "CHAR_LENGTH", "CHARACTER_LENGTH"], ["SUBSTRING", "SUBSTR"]] ++
  between 1 4 [["ROUND"]] ++
  between 2 3 [["NVL2"], ["REPLACE"], ["SPLIT"], ["REGEXP_LIKE"], ["DATE_ADD"], ["DATE_SUB"]] ++
  between 2 4 [["DATEDIFF", "DATE_DIFF"]] ++
  atLeast 1 [["COALESCE", "IFNULL", "NVL"], ["MIN"], ["MAX"], ["LEAST"], ["GREATEST"], ["CONCAT"],
    ["ARRAY_AGG"]] ++
  atLeast 0 [["COUNT"], ["DATE"], ["RANK"], ["DENSE_RANK"]]

def find? (key : String) : Option Function := known.find? (·.names.contains key)

def takes (f : Function) (count : Nat) : Bool := f.least ≤ count && f.most.all (count ≤ ·)

/-- The names that a dialect uses in place of the canonical ones. -/
def dialectNames : Dialect → List (String × String)
  | .sqlserver => [("LENGTH", "LEN"), ("CEIL", "CEILING")]
  | .clickhouse | .base | .firebird | .mysql | .singlestore | .postgres | .sqlite | .duckdb => []

def special : List String :=
  ["MOD", "IF", "IIF", "LOG2", "LOG10", "DATE_TRUNC", "DATEADD", "DATE_FORMAT", "STRFTIME"]

/-- Whether the arguments of a function have no aliases. -/
def isKnown (key : String) : Bool := (find? key).isSome || special.contains key

/-- The name of a function: ClickHouse keeps the spelling, every other dialect uses upper case. -/
def spelling (d : Dialect) (name : Ident) : String :=
  let s := if name.quoted then d.quote name.name else name.name
  if d = .clickhouse then s else upper s

/-! ## Canonical calls -/

/-- The unit that a bucketing function of ClickHouse truncates to. -/
def truncationUnits : List (String × String) :=
  [("TOSTARTOFHOUR", "HOUR"), ("TOSTARTOFDAY", "DAY"), ("TOMONDAY", "WEEK"),
   ("TOSTARTOFMONTH", "MONTH"), ("TOSTARTOFYEAR", "YEAR")]

def unit? : Expr → Option String
  | .string s => some s
  | .column [.ident i] => some i.name
  | _ => none

/-- The unit of a truncation, in upper case. -/
def truncationUnit (e : Expr) : Expr :=
  match unit? e with
  | some s => .string ((shortUnits.lookup (upper s)).getD (upper s))
  | none => e

/-- The unit of a difference or a sum of moments, in upper case. -/
def bareUnit (e : Expr) : Expr :=
  match unit? e with
  | some s => .verbatim (upper s)
  | none => e

/-- A moment of SQL Server, which counts from the first day of 1900. -/
def moment : Expr → Expr
  | .number "0" => .call "CAST" [.binary "AS" (.string "1900-01-01") (.verbatim "DATETIME2")]
  | e => e

/-- An operand of a remainder in the form of a call: compound ones are grouped. -/
def grouped (e : Expr) : Expr := if e.isCompound then .group e else e

/-- The call of a listed function; none when it does not take so many arguments. -/
def counted (d : Dialect) (name : Ident) (arguments : List Expr) : Option Expr :=
  match find? (upper name.name) with
  | none => some (.call (spelling d name) arguments)
  | some f =>
    if !f.takes arguments.length then none
    else
      let canonical := f.names.headD ""
      some (.call (if d = .clickhouse then spelling d name
        else ((dialectNames d).lookup canonical).getD canonical) arguments)

/-- The canonical call of a function; none when it is malformed. A remainder is written with its
sign, a conditional as a choice, units of time in upper case; SQL Server counts units between
moments of its own type. -/
def call? (d : Dialect) (name : Ident) (arguments : List Expr) : Option Expr :=
  match d, upper name.name, arguments with
  | _, "MOD", a :: b :: _ => some (.binary "%" (grouped a) (grouped b))
  | _, "MOD", _ => none
  | _, "IF", [condition, e] | _, "IIF", [condition, e] => some (.choice none [(condition, e)] none)
  | _, "IF", [condition, e, otherwise] | _, "IIF", [condition, e, otherwise] =>
    some (.choice none [(condition, e)] (some otherwise))
  | _, "IF", _ | _, "IIF", _ => none
  | .base, "LOG2", [e] => some (.call "LOG" [.number "2", e])
  | .base, "LOG10", [e] => some (.call "LOG" [.number "10", e])
  | .clickhouse, key, [c] => match truncationUnits.lookup key with
    | some unit => some (.call "dateTrunc" [.string unit, c])
    | none => counted d name arguments
  | .clickhouse, _, _ => counted d name arguments
  | .sqlserver, "DATEADD", [unit, amount, c] =>
    some (.call "DATEADD" [bareUnit unit, amount, c])
  | .sqlserver, "DATEDIFF", [unit, start, c] =>
    some (.call "DATEDIFF" [bareUnit unit, moment start,
      .call "CAST" [.binary "AS" c (.verbatim "DATETIME2")]])
  | _, "DATE_TRUNC", unit :: c :: rest =>
    some (.call "DATE_TRUNC" (truncationUnit unit :: c :: rest))
  | _, _, _ => counted d name arguments

end Function
end Datacube.Sql
