import Datacube.Error

/-!
# Dialects

A dialect fixes how identifiers are quoted and how a time column is bucketed. `Dialect.wrap` quotes
the parts of a reference; a reference with an alias, `x as y` in any letter case, is quoted on both
sides.
-/

namespace Datacube
open Text

/-- The query dialects. `base` has no time buckets and is never looked up by name. -/
inductive Dialect where
  | base
  | mysql
  | singlestore
  | postgres
  | sqlite
  | sqlserver
  | clickhouse
  | firebird
  | duckdb
  deriving DecidableEq, Repr

namespace Dialect

/-- The dialects that can be looked up, in the order of their names. -/
def registered : List Dialect :=
  [.clickhouse, .duckdb, .firebird, .mysql, .postgres, .singlestore, .sqlite, .sqlserver]

/-- The name by which aggregation renderings are chosen. -/
def name : Dialect → String
  | base => "generic"
  | mysql => "mysql"
  | singlestore => "singlestore"
  | postgres => "postgres"
  | sqlite => "sqlite"
  | sqlserver => "sqlserver"
  | clickhouse => "clickhouse"
  | firebird => "firebird"
  | duckdb => "duckdb"

/-- The SQL that the dialect speaks; none for those without rules of their own. -/
def spoken? : Dialect → Option String
  | base | firebird => none
  | singlestore => some "mysql"
  | sqlserver => some "tsql"
  | d => some d.name

def label : Dialect → String
  | base => "QueryGrammar()"
  | mysql => "MySqlGrammar()"
  | singlestore => "SingleStoreGrammar()"
  | postgres => "PostgresGrammar()"
  | sqlite => "SqliteGrammar()"
  | sqlserver => "SqlServerGrammar()"
  | clickhouse => "ClickHouseGrammar()"
  | firebird => "FirebirdGrammar()"
  | duckdb => "DuckDbGrammar()"

def aliases : List (String × Dialect) :=
  [("pgsql", postgres), ("postgresql", postgres), ("timescaledb", postgres), ("mariadb", mysql),
   ("mssql", sqlserver), ("sqlsrv", sqlserver), ("tsql", sqlserver), ("sqlite3", sqlite)]

/-- The dialect of a name or alias in any letter case. -/
def ofName (name : String) : Outcome Dialect :=
  let key := lower name
  match aliases.lookup key, registered.find? (·.name == key) with
  | some d, _ => .ok d
  | none, some d => .ok d
  | none, none => refuse (.dialectUnsupported name (registered.map (·.name)))

/-! ## Identifiers -/

def quotes : Dialect → Char × Char
  | mysql | singlestore => ('`', '`')
  | sqlserver => ('[', ']')
  | _ => ('"', '"')

/-- A quoted identifier: the closing quote is doubled inside. -/
def quote (d : Dialect) (name : String) : String :=
  let (opening, closing) := d.quotes
  let escaped := if d = clickhouse then doubled '\\' name else name
  opening.toString ++ doubled closing escaped ++ closing.toString

/-- The characters that stand behind a backslash for another one, in the dialects that escape. -/
def escapes : List (Char × Char) :=
  [('\x07', 'a'), ('\x08', 'b'), ('\x0c', 'f'), ('\n', 'n'), ('\r', 'r'), ('\t', 't'),
   ('\x0b', 'v'), ('\\', '\\')]

/-- Whether the dialect writes a character of a text behind a backslash. -/
def escape? (d : Dialect) (c : Char) : Option Char :=
  match d with
  | mysql | singlestore => escapes.lookup c
  | clickhouse => if c = '\x00' then some '0' else escapes.lookup c
  | _ => none

/-- A text in single quotes, which are doubled inside. -/
def literal (d : Dialect) (s : String) : String :=
  let inner := s.toList.flatMap fun c => match d.escape? c with
    | some e => ['\\', e]
    | none => if c = '\'' then [c, c] else [c]
  String.ofList ('\'' :: inner ++ ['\''])

/-- A part of a reference; a star is no identifier. -/
def wrapPart (d : Dialect) (part : String) : String := if part == "*" then part else d.quote part

/-- The phrase that separates a reference from its alias. -/
def aliasPhrase : List Char := " as ".toList

/-- The texts on both sides of the first alias phrase in any letter case, without blanks around
them. The position is the one in the lower-case form of the text. -/
def cutAlias? (s : String) : Option (String × String) :=
  (indexOf? aliasPhrase (lower s).toList).map fun i =>
    (String.ofList (stripChars (s.toList.take i)),
     String.ofList (stripChars (s.toList.drop (i + 4))))

/-- Quotes a reference. The left side of an alias can be the whole text again when letters grow in
lower case before the phrase; such a text has no quoted form. -/
def wrapWithin (d : Dialect) : Nat → String → Option String
  | 0, _ => none
  | fuel + 1, s =>
    if s == "*" then some s
    else match cutAlias? s with
      | some (reference, aliased) => do
        let reference ← wrapWithin d fuel reference
        let aliased ← wrapWithin d fuel aliased
        some (reference ++ " AS " ++ aliased)
      | none => some (join "." ((splitAll '.' s).map d.wrapPart))

/-- Quotes the parts of a reference and both sides of an alias. Both sides of a phrase are shorter
than the text or the text again, so its length bounds the depth. -/
def wrap (d : Dialect) (s : String) : Outcome String :=
  match d.wrapWithin (s.length + 1) s with
  | some quoted => .ok quoted
  | none => fail .endless

/-- Quotes a name as `wrap` does; only a text can be quoted. -/
def wrapValue (d : Dialect) : Value → Outcome String
  | .text s => d.wrap s
  | _ => fail .noSuchMember

/-! ## Time buckets -/

/-- The granularities of a dialect with the expression that truncates a column to each. -/
def timeBuckets : Dialect → List (String × (String → String))
  | mysql =>
    [("minute", fun c => s!"DATE_FORMAT({c}, '%Y-%m-%d %H:%i:00')"),
     ("hour", fun c => s!"DATE_FORMAT({c}, '%Y-%m-%d %H:00:00')"),
     ("day", fun c => s!"DATE({c})"),
     ("week", fun c => s!"DATE_FORMAT({c}, '%Y-%u')"),
     ("month", fun c => s!"DATE_FORMAT({c}, '%Y-%m')"),
     ("year", fun c => s!"YEAR({c})")]
  | singlestore =>
    [("hour", fun c => s!"DATE_FORMAT({c}, '%Y-%m-%d %H:00:00')"),
     ("day", fun c => s!"DATE({c})"),
     ("week", fun c => s!"DATE_FORMAT({c}, '%Y-%u')"),
     ("month", fun c => s!"DATE_FORMAT({c}, '%Y-%m')"),
     ("year", fun c => s!"YEAR({c})")]
  | postgres =>
    ["minute", "hour", "day", "week", "month", "quarter", "year"].map fun unit =>
      (unit, fun c => s!"DATE_TRUNC('{unit}', {c})")
  | duckdb =>
    ["minute", "hour", "day", "week", "month", "quarter", "year"].map fun unit =>
      (unit, fun c => s!"date_trunc('{unit}', {c})")
  | sqlite =>
    [("hour", fun c => s!"strftime('%Y-%m-%d %H:00:00', {c})"),
     ("day", fun c => s!"date({c})"),
     ("week", fun c => s!"date({c}, 'weekday 0', '-6 days')"),
     ("month", fun c => s!"strftime('%Y-%m-01', {c})"),
     ("year", fun c => s!"strftime('%Y-01-01', {c})")]
  | sqlserver =>
    [("hour", fun c => s!"DATEADD(hour, DATEDIFF(hour, 0, {c}), 0)"),
     ("day", fun c => s!"CAST({c} AS DATE)"),
     ("week", fun c => s!"DATEADD(week, DATEDIFF(week, 0, {c}), 0)"),
     ("month", fun c => s!"DATEADD(month, DATEDIFF(month, 0, {c}), 0)"),
     ("year", fun c => s!"DATEADD(year, DATEDIFF(year, 0, {c}), 0)")]
  | clickhouse =>
    [("hour", fun c => s!"toStartOfHour({c})"),
     ("day", fun c => s!"toStartOfDay({c})"),
     ("week", fun c => s!"toMonday({c})"),
     ("month", fun c => s!"toStartOfMonth({c})"),
     ("year", fun c => s!"toStartOfYear({c})")]
  | firebird =>
    [("hour", fun c =>
        s!"CAST(CAST({c} AS DATE) || ' ' || EXTRACT(HOUR FROM {c}) || ':00:00' AS TIMESTAMP)"),
     ("day", fun c => s!"CAST({c} AS DATE)"),
     ("week", fun c => s!"DATEADD(day, -EXTRACT(WEEKDAY FROM {c}), CAST({c} AS DATE))"),
     ("month", fun c =>
        s!"CAST(EXTRACT(YEAR FROM {c}) || '-' || EXTRACT(MONTH FROM {c}) || '-01' AS DATE)"),
     ("year", fun c => s!"CAST(EXTRACT(YEAR FROM {c}) || '-01-01' AS DATE)")]
  | base => []

def granularities (d : Dialect) : List String := d.timeBuckets.map (·.1)

/-- Whether the dialect buckets by a granularity, in any letter case. -/
def supports (d : Dialect) (granularity : String) : Bool :=
  (d.timeBuckets.lookup (lower granularity)).isSome

/-- The expression that truncates a column to a granularity; without a table the column stands
alone. -/
def timeBucket (d : Dialect) (table column : Value) (granularity : String) : Outcome String :=
  let key := lower granularity
  match d.timeBuckets.lookup key with
  | some bucket =>
    .ok (bucket (if table.isTrue then table.toText ++ "." ++ column.toText else column.toText))
  | none => refuse (.granularityUnsupported key d.name)

end Dialect
end Datacube
