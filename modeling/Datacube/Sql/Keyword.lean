import Datacube.Sql.Token
import Datacube.Text.Word

/-!
# Keywords

Which words of SQL may name something, which may be called, which are types or units of time, and
which names a dialect quotes. All of them are compared in upper case.
-/

namespace Datacube.Sql
open Text

/-! ## Names -/

/-- Words that never name a column or an alias. -/
def reservedWords : List String :=
  ["ALTER", "AND", "AS", "BETWEEN", "CREATE", "CROSS", "DISTINCT", "DROP", "ELSE", "EXCEPT",
   "FETCH", "FOR", "FROM", "GLOB", "GRANT", "HAVING", "ILIKE", "INNER", "INSERT", "INTERSECT",
   "INTO", "JOIN", "LATERAL", "LIKE", "NOT", "NOTNULL", "NULL", "ON", "OR", "OUTER", "OVER",
   "QUALIFY", "REGEXP", "RETURNING", "REVOKE", "RLIKE", "ROLLBACK", "SELECT", "STRAIGHT_JOIN",
   "TABLESAMPLE", "THEN", "UNCACHE", "UNION", "USING", "VALUES", "WHEN", "WHERE", "WITH", "XOR",
   "GROUP BY", "ORDER BY", "SORT BY", "CLUSTER BY", "DISTRIBUTE BY", "PARTITION BY",
   "PARTITIONED BY", "CONNECT BY", "START WITH", "GROUPING SETS", "SIMILAR TO", "CHARACTER SET",
   "PRIMARY KEY", "FOREIGN KEY"]

/-- Words that are no alias of a table, because a join may follow one. -/
def joinWords : List String :=
  ["ANTI", "ASOF", "FULL", "LEFT", "LOCK", "NATURAL", "RIGHT", "SEMI", "WINDOW"]

/-- Words that name no function although they may name a column. -/
def uncallableWords : List String :=
  ["ANALYZE", "ANTI", "ASC", "ASOF", "AUTOINCREMENT", "AUTO_INCREMENT", "BEGIN", "CACHE", "COLUMN",
   "COMMENT", "COMMIT", "CONSTRAINT", "COPY", "CUBE", "DATABASE", "DEFAULT", "DELETE", "DESC",
   "DESCRIBE", "DIV", "END", "ESCAPE", "EXECUTE", "FULL", "FUNCTION", "IN", "INTERVAL", "IS",
   "KEEP", "KILL", "LIMIT", "LOAD", "LOCK", "NAMESPACE", "NATURAL", "ORDINALITY", "OVERLAPS",
   "OVERWRITE", "PARTITION", "PERCENT", "PIVOT", "PRAGMA", "PROCEDURE", "RECURSIVE", "REFERENCES",
   "RENAME", "ROLLUP", "ROWS", "SCHEMA", "SEMI", "SET", "SETTINGS", "SHOW", "TEMP", "TEMPORARY",
   "UNIQUE", "UNPIVOT", "UPDATE", "USE", "VIEW", "VOLATILE"]

/-- Reserved words that are functions before a parenthesis. -/
def callableWords : List String := ["GLOB", "ILIKE", "INSERT", "LIKE", "RLIKE", "REGEXP", "XOR"]

def namesColumn (key : String) : Bool := !reservedWords.contains key

/-- Whether a word before a parenthesis is a function. -/
def namesFunction (key : String) : Bool :=
  if reservedWords.contains key then callableWords.contains key else !uncallableWords.contains key

/-- The words that stand for a moment or a user, with their canonical text. -/
def constants : List (String × String) :=
  [("CURRENT_DATE", "CURRENT_DATE"), ("CURRENT_TIME", "CURRENT_TIME()"),
   ("CURRENT_TIMESTAMP", "CURRENT_TIMESTAMP()"), ("CURRENT_USER", "CURRENT_USER()"),
   ("LOCALTIME", "LOCALTIME"), ("LOCALTIMESTAMP", "LOCALTIMESTAMP")]

/-- Such words as the dialect writes them. Some dialects have no parentheses behind them, and SQL
Server knows the present moment alone. -/
def constant? (d : Dialect) (key : String) : Option String :=
  match d, key with
  | .sqlserver, "CURRENT_DATE" | .sqlserver, "CURRENT_TIMESTAMP" => some "GETDATE()"
  | .sqlite, _ | .postgres, _ | .duckdb, _ => (constants.lookup key).map fun _ => key
  | _, _ => constants.lookup key

/-! ## Types and units -/

/-- The types that may stand before a literal, by their canonical names. -/
def types : List (String × List String) :=
  [("BIGINT", ["BIGINT", "INT8", "INT64", "LONG"]), ("BIGDECIMAL", ["BIGDECIMAL", "BIGNUMERIC"]),
   ("BINARY", ["BINARY"]), ("BIT", ["BIT"]), ("BOOLEAN", ["BOOLEAN", "BOOL"]),
   ("BPCHAR", ["BPCHAR"]), ("CHAR", ["CHAR", "CHARACTER"]), ("DATE", ["DATE"]),
   ("DATETIME", ["DATETIME"]), ("DECIMAL", ["DECIMAL", "DEC", "NUMERIC", "NUMBER", "FIXED"]),
   ("DOUBLE", ["DOUBLE", "DOUBLE PRECISION", "FLOAT8"]), ("FLOAT", ["FLOAT", "FLOAT4", "REAL"]),
   ("GEOGRAPHY", ["GEOGRAPHY"]), ("GEOMETRY", ["GEOMETRY"]), ("INET", ["INET"]),
   ("INT", ["INT", "INTEGER", "INT4"]), ("INT128", ["INT128", "HUGEINT"]), ("INT256", ["INT256"]),
   ("JSON", ["JSON"]), ("JSONB", ["JSONB"]), ("LONGBLOB", ["LONGBLOB"]),
   ("LONGTEXT", ["LONGTEXT"]), ("MEDIUMBLOB", ["MEDIUMBLOB"]), ("MEDIUMINT", ["MEDIUMINT"]),
   ("MEDIUMTEXT", ["MEDIUMTEXT"]), ("NCHAR", ["NCHAR"]), ("NVARCHAR", ["NVARCHAR", "NVARCHAR2"]),
   ("SMALLINT", ["SMALLINT", "INT2", "SHORT"]), ("TEXT", ["TEXT", "STRING", "CLOB", "LONGVARCHAR"]),
   ("TIME", ["TIME"]), ("TIMETZ", ["TIMETZ"]), ("TIMESTAMP", ["TIMESTAMP"]),
   ("TIMESTAMPLTZ", ["TIMESTAMPLTZ", "TIMESTAMP_LTZ"]),
   ("TIMESTAMPNTZ", ["TIMESTAMPNTZ", "TIMESTAMP_NTZ"]), ("TIMESTAMPTZ", ["TIMESTAMPTZ"]),
   ("TINYBLOB", ["TINYBLOB"]), ("TINYINT", ["TINYINT", "INT1", "BYTE"]),
   ("TINYTEXT", ["TINYTEXT"]), ("UBIGINT", ["UBIGINT"]), ("UINT", ["UINT", "UINTEGER"]),
   ("USMALLINT", ["USMALLINT"]), ("UTINYINT", ["UTINYINT"]), ("UUID", ["UUID"]),
   ("VARBINARY", ["VARBINARY", "BLOB", "BYTEA"]),
   ("VARCHAR", ["VARCHAR", "VARCHAR2", "CHAR VARYING", "CHARACTER VARYING"]),
   ("VARIANT", ["VARIANT"]), ("XML", ["XML"])]

def type? (key : String) : Option String :=
  (types.find? fun (_, spellings) => spellings.contains key).map (·.1)

/-- The types that a dialect writes in its own way. -/
def dialectTypes : Dialect → List (String × String)
  | .mysql | .singlestore =>
    [("INT", "SIGNED"), ("BIGINT", "SIGNED"), ("SMALLINT", "SIGNED"), ("TINYINT", "SIGNED"),
     ("MEDIUMINT", "SIGNED"), ("BOOLEAN", "SIGNED"), ("VARCHAR", "CHAR"), ("TEXT", "CHAR")]
  | .postgres =>
    [("TINYINT", "SMALLINT"), ("FLOAT", "REAL"), ("DOUBLE", "DOUBLE PRECISION"),
     ("DATETIME", "TIMESTAMP"), ("TIMESTAMPNTZ", "TIMESTAMP"), ("BINARY", "BYTEA"),
     ("VARBINARY", "BYTEA")]
  | .sqlite =>
    [("BOOLEAN", "INTEGER"), ("TINYINT", "INTEGER"), ("SMALLINT", "INTEGER"), ("INT", "INTEGER"),
     ("BIGINT", "INTEGER"), ("FLOAT", "REAL"), ("DOUBLE", "REAL"), ("DECIMAL", "REAL"),
     ("CHAR", "TEXT"), ("NCHAR", "TEXT"), ("VARCHAR", "TEXT"), ("NVARCHAR", "TEXT"),
     ("BINARY", "BLOB"), ("VARBINARY", "BLOB")]
  | .sqlserver =>
    [("BOOLEAN", "BIT"), ("DECIMAL", "NUMERIC"), ("DOUBLE", "FLOAT"), ("INT", "INTEGER"),
     ("TEXT", "VARCHAR(MAX)"), ("TIMESTAMP", "DATETIME2"), ("DATETIME", "DATETIME2"),
     ("TIMESTAMPTZ", "DATETIMEOFFSET"), ("UUID", "UNIQUEIDENTIFIER")]
  | .clickhouse =>
    [("INT", "Int32"), ("BIGINT", "Int64"), ("SMALLINT", "Int16"), ("TINYINT", "Int8"),
     ("FLOAT", "Float32"), ("DOUBLE", "Float64"), ("DECIMAL", "Decimal"), ("TEXT", "String"),
     ("VARCHAR", "String"), ("CHAR", "String"), ("BOOLEAN", "Bool"), ("DATETIME", "DateTime"),
     ("TIMESTAMP", "DateTime")]
  | .duckdb =>
    [("VARCHAR", "TEXT"), ("CHAR", "TEXT"), ("NCHAR", "TEXT"), ("NVARCHAR", "TEXT"),
     ("FLOAT", "REAL"), ("BINARY", "BLOB"), ("VARBINARY", "BLOB"), ("DATETIME", "TIMESTAMP"),
     ("JSONB", "JSON")]
  | .base | .firebird => []

/-- A type as the dialect writes it; an unknown one keeps its spelling. -/
def typeName (d : Dialect) (spelling : String) : String :=
  match type? (upper spelling) with
  | some name => ((dialectTypes d).lookup name).getD name
  | none => spelling

/-- The units of time with their short forms. -/
def units : List (String × List String) :=
  [("YEAR", ["Y", "YY", "YYY", "YYYY", "YR", "YEARS", "YRS"]),
   ("MONTH", ["MM", "MON", "MONS", "MONTHS"]),
   ("DAY", ["D", "DD", "DAYS", "DAYOFMONTH"]),
   ("DAYOFWEEK", ["WEEKDAY", "DOW", "DW", "DAYOFWEEKISO", "WEEKDAY_ISO", "DOW_ISO", "DW_ISO"]),
   ("DAYOFYEAR", ["DOY", "DY", "YEARDAY", "YEARDAYS"]),
   ("WEEK", ["W", "WK", "WEEKOFYEAR", "WOY", "WY", "WEEKS"]),
   ("WEEKISO", ["WEEK_ISO", "WEEKOFYEARISO", "WEEKOFYEAR_ISO"]),
   ("QUARTER", ["Q", "QTR", "QTRS", "QUARTERS"]), ("HOUR", ["H", "HH", "HR", "HOURS", "HRS"]),
   ("MINUTE", ["M", "MI", "MIN", "MINUTES", "MINS"]),
   ("SECOND", ["S", "SEC", "SECONDS", "SECS"]),
   ("MILLISECOND", ["MS", "MSEC", "MSECS", "MSECOND", "MSECONDS", "MILLISEC", "MILLISECS",
     "MILLISECON", "MILLISECONDS"]),
   ("MICROSECOND", ["US", "USEC", "USECS", "MICROSEC", "MICROSECS", "USECOND", "USECONDS",
     "MICROSECONDS"]),
   ("NANOSECOND", ["NS", "NSEC", "NANOSEC", "NSECOND", "NSECONDS", "NANOSECS"]),
   ("EPOCH", ["EPOCH_SECOND", "EPOCH_SECONDS"]), ("DECADE", ["DEC", "DECS", "DECADES"]),
   ("MILLENNIUM", ["MIL", "MILS", "MILLENIA"]), ("CENTURY", ["C", "CENT", "CENTS", "CENTURIES"]),
   ("TIMEZONE_HOUR", ["TZH"]), ("TIMEZONE_MINUTE", ["TZM"])]

def isUnit (key : String) : Bool :=
  units.any fun (unit, short) => key == unit || short.contains key

/-- The units that truncation knows by a short form. -/
def shortUnits : List (String × String) :=
  [("D", "DAY"), ("H", "HOUR"), ("M", "MINUTE"), ("MS", "MILLISECOND"), ("NS", "NANOSECOND"),
   ("Q", "QUARTER"), ("S", "SECOND"), ("US", "MICROSECOND"), ("W", "WEEK"), ("Y", "YEAR")]

/-! ## Names that a dialect quotes -/

/-- The words that a dialect quotes where they are names, in lower case. -/
def quotedWords : Dialect → List String
  | .mysql | .singlestore =>
    ["accessible", "add", "all", "alter", "analyze", "and", "as", "asc", "asensitive", "before",
     "between", "bigint", "binary", "blob", "both", "by", "call", "cascade", "case", "change",
     "char", "character", "check", "collate", "column", "condition", "constraint", "continue",
     "convert", "create", "cross", "cube", "cume_dist", "current_date", "current_time",
     "current_timestamp", "current_user", "cursor", "database", "databases", "day_hour",
     "day_microsecond", "day_minute", "day_second", "dec", "decimal", "declare", "default",
     "delayed", "delete", "dense_rank", "desc", "describe", "deterministic", "distinct",
     "distinctrow", "div", "double", "drop", "dual", "each", "else", "elseif", "empty", "enclosed",
     "escaped", "except", "exists", "exit", "explain", "false", "fetch", "first_value", "float",
     "float4", "float8", "for", "force", "foreign", "from", "fulltext", "function", "generated",
     "get", "grant", "group", "grouping", "groups", "having", "high_priority", "hour_microsecond",
     "hour_minute", "hour_second", "if", "ignore", "in", "index", "infile", "inner", "inout",
     "insensitive", "insert", "int", "int1", "int2", "int3", "int4", "int8", "integer",
     "intersect", "interval", "into", "io_after_gtids", "io_before_gtids", "is", "iterate", "join",
     "json_table", "key", "keys", "kill", "lag", "last_value", "lateral", "lead", "leading",
     "leave", "left", "like", "limit", "linear", "lines", "load", "localtime", "localtimestamp",
     "lock", "long", "longblob", "longtext", "loop", "low_priority", "master_bind",
     "master_ssl_verify_server_cert", "match", "maxvalue", "mediumblob", "mediumint", "mediumtext",
     "middleint", "minute_microsecond", "minute_second", "mod", "modifies", "natural", "not",
     "no_write_to_binlog", "nth_value", "ntile", "null", "numeric", "of", "on", "optimize",
     "optimizer_costs", "option", "optionally", "or", "order", "out", "outer", "outfile", "over",
     "partition", "percent_rank", "precision", "primary", "procedure", "purge", "range", "rank",
     "read", "reads", "read_write", "real", "recursive", "references", "regexp", "release",
     "rename", "repeat", "replace", "require", "resignal", "restrict", "return", "revoke", "right",
     "rlike", "row", "rows", "row_number", "schema", "schemas", "second_microsecond", "select",
     "sensitive", "separator", "set", "show", "signal", "smallint", "spatial", "specific", "sql",
     "sqlexception", "sqlstate", "sqlwarning", "sql_big_result", "sql_calc_found_rows",
     "sql_small_result", "ssl", "starting", "stored", "straight_join", "system", "table",
     "terminated", "then", "tinyblob", "tinyint", "tinytext", "to", "trailing", "trigger", "true",
     "undo", "union", "unique", "unlock", "unsigned", "update", "usage", "use", "using",
     "utc_date", "utc_time", "utc_timestamp", "values", "varbinary", "varchar", "varcharacter",
     "varying", "virtual", "when", "where", "which", "while", "window", "with", "write", "xor",
     "year_month", "zerofill"]
  | .duckdb =>
    ["array", "analyse", "union", "all", "when", "in_p", "default", "create_p", "window",
     "asymmetric", "to", "else", "localtime", "from", "end_p", "select", "current_date", "foreign",
     "with", "grant", "session_user", "or", "except", "references", "fetch", "limit", "group_p",
     "leading", "into", "collate", "offset", "do", "then", "localtimestamp", "check_p",
     "lateral_p", "current_role", "where", "asc_p", "placing", "desc_p", "user", "unique",
     "initially", "column", "both", "some", "as", "any", "only", "deferrable", "null_p",
     "current_time", "true_p", "table", "case", "trailing", "variadic", "for", "on", "distinct",
     "false_p", "not", "constraint", "current_timestamp", "returning", "primary", "intersect",
     "having", "analyze", "current_user", "and", "cast", "symmetric", "using", "order",
     "current_catalog"]
  | _ => []

/-- Whether a plain name is quoted all the same: a word that the dialect reserves, or one that
begins with a digit where words may not. -/
def needsQuotes (d : Dialect) (name : String) : Bool :=
  (quotedWords d).contains (lower name) || (!hasDigitWords d && name.toList.head?.any isDigitLike)

end Datacube.Sql
