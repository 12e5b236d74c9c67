import Datacube.Value.Text

/-!
# Why a request is refused

`Cause` lists what the planner refuses on its own account. Every cause has a stable code, a message,
details for a log and, where one is known, a suggestion. `Fault` lists what goes wrong below the
planner: malformed data, values without an order, a backend that fails.
-/

namespace Datacube
open Text

/-- What the planner refuses. What a cause names is kept as the request gave it: nearly always a
text, and null where nothing is named. -/
inductive Cause where
  | tableNotFound (table provider : Value) (available : Option (List Value)) (reason : Value)
  | ambiguousTable (table : Value) (providers : List Value)
  | referenceNotFound (reference reason provider : Value)
  | catalogUnreadable (path reason : Value)
  | cacheFailed (message backend : Value)
  | joinPathNotFound (table : Value) (connected : List Value)
  | relationUnhandled (type : String) (relation : Value)
  | mergeStuck (pending : List Value)
  | noMetrics
  | planUnsupported (kind : Value)
  | aggregationUnmergeable (kind aliasName : Value)
  | circularDependency (metric : Value)
  | unknownDependency (metric dependency : Value) (available : List Value)
  | granularityUnsupported (granularity grammar : Value)
  | dialectUnsupported (dialect : Value) (available : List Value)
  | cteUnsupported (driver : Value)
  | driverNotFound (name : Value) (available : Option (List Value))
  | driverUnavailable (driver package : Value)
  | queryFailed (driver sql reason : Value)
  | compilerNotFound (kind backend : Value)
  | invalidAggregation (message : Value)
  | invalidExpression (expression reason : Value)
  | reported (code : String) (message details suggestion : Value)
  deriving Inhabited

namespace Cause

/-- The stable code: the thousands tell schema, joins, planning, drivers and metrics apart. -/
def code : Cause → String
  | tableNotFound .. => "ERR_1001"
  | ambiguousTable .. => "ERR_1002"
  | referenceNotFound .. => "ERR_1003"
  | catalogUnreadable .. => "ERR_1004"
  | cacheFailed .. => "ERR_1005"
  | joinPathNotFound .. => "ERR_2001"
  | relationUnhandled .. => "ERR_2002"
  | mergeStuck .. => "ERR_2003"
  | noMetrics => "ERR_3001"
  | planUnsupported .. => "ERR_3002"
  | aggregationUnmergeable .. => "ERR_3003"
  | circularDependency .. => "ERR_3004"
  | unknownDependency .. => "ERR_3005"
  | granularityUnsupported .. => "ERR_4001"
  | dialectUnsupported .. => "ERR_4002"
  | cteUnsupported .. => "ERR_4003"
  | driverNotFound .. => "ERR_4004"
  | driverUnavailable .. => "ERR_4005"
  | queryFailed .. => "ERR_4006"
  | compilerNotFound .. => "ERR_5001"
  | invalidAggregation .. => "ERR_5002"
  | invalidExpression .. => "ERR_5003"
  | reported code .. => code

def name : Cause → String
  | tableNotFound .. => "TableNotFound"
  | ambiguousTable .. => "AmbiguousTable"
  | referenceNotFound .. => "ReferenceNotFound"
  | catalogUnreadable .. => "CatalogLoadError"
  | cacheFailed .. => "SchemaCacheError"
  | joinPathNotFound .. => "JoinPathNotFound"
  | relationUnhandled .. => "UnhandledRelationType"
  | mergeStuck .. => "SoftwareJoinError"
  | noMetrics => "NoMetricsError"
  | planUnsupported .. => "UnsupportedQueryPlan"
  | aggregationUnmergeable .. => "UnsupportedSoftwareAggregation"
  | circularDependency .. => "CircularDependency"
  | unknownDependency .. => "UnknownMetricDependency"
  | granularityUnsupported .. => "UnsupportedGranularity"
  | dialectUnsupported .. => "UnsupportedDialect"
  | cteUnsupported .. => "CTEUnsupported"
  | driverNotFound .. => "DriverNotFound"
  | driverUnavailable .. => "DriverUnavailable"
  | queryFailed .. => "QueryExecutionError"
  | compilerNotFound .. => "CompilerNotFound"
  | invalidAggregation .. => "InvalidAggregation"
  | invalidExpression .. => "InvalidExpression"
  | reported .. => "SliceError"

def codeNames : List (String × String) :=
  [("ERR_TABLE_NOT_FOUND", "ERR_1001"), ("ERR_TABLE_AMBIGUOUS", "ERR_1002"),
   ("ERR_REFERENCE_NOT_FOUND", "ERR_1003"), ("ERR_CATALOG_LOAD_FAILED", "ERR_1004"),
   ("ERR_SCHEMA_CACHE", "ERR_1005"), ("ERR_JOIN_PATH_NOT_FOUND", "ERR_2001"),
   ("ERR_RELATION_UNHANDLED", "ERR_2002"), ("ERR_SOFTWARE_JOIN_FAILED", "ERR_2003"),
   ("ERR_NO_METRICS", "ERR_3001"), ("ERR_PLAN_UNSUPPORTED", "ERR_3002"),
   ("ERR_SOFTWARE_AGGREGATION", "ERR_3003"), ("ERR_CIRCULAR_DEPENDENCY", "ERR_3004"),
   ("ERR_UNKNOWN_DEPENDENCY", "ERR_3005"), ("ERR_GRANULARITY_UNSUPPORTED", "ERR_4001"),
   ("ERR_DIALECT_UNSUPPORTED", "ERR_4002"), ("ERR_CTE_UNSUPPORTED", "ERR_4003"),
   ("ERR_DRIVER_NOT_FOUND", "ERR_4004"), ("ERR_DRIVER_UNAVAILABLE", "ERR_4005"),
   ("ERR_QUERY_FAILED", "ERR_4006"), ("ERR_COMPILER_NOT_FOUND", "ERR_5001"),
   ("ERR_INVALID_AGGREGATION", "ERR_5002"), ("ERR_INVALID_EXPRESSION", "ERR_5003"),
   ("ERR_INTERNAL", "ERR_9001")]

def listed (names : List Value) : String := join ", " (names.map Value.toText)

/-- What is said of a name, if there is one. -/
def about (name : Value) (before after : String) : String :=
  if name.isTrue then before ++ name.toText ++ after else ""

def qualified (table : Value) (providers : List Value) : List String :=
  providers.map fun provider => provider.toText ++ ":" ++ table.toText ++ ".column"

def message : Cause → Value
  | tableNotFound table provider available reason =>
    (if provider.isTrue then
      s!"Provider '{provider.toText}' could not resolve table '{table.toText}'"
    else s!"Table '{table.toText}' not found in any provider") ++
    (match available with
      | some names => ". Available providers: " ++ listed names
      | none => "") ++ about reason ": " ""
  | ambiguousTable table providers =>
    s!"Ambiguous table '{table.toText}' found in multiple providers: " ++ listed providers ++
      ".\n" ++ "Specify the provider explicitly using one of these formats:\n" ++
      join "\n" ((qualified table providers).map ("  - " ++ ·))
  | referenceNotFound reference reason provider =>
    s!"Reference '{reference.toText}' not found" ++ about provider " in provider '" "'" ++
      about reason ": " ""
  | catalogUnreadable path reason =>
    s!"Failed to load catalog '{path.toText}': {reason.toText}"
  | cacheFailed message _ => message
  | joinPathNotFound table connected =>
    s!"No join path connects table '{table.toText}' to [" ++ listed connected ++ "]"
  | relationUnhandled type relation =>
    s!"Unhandled relation type '{type}' on relation '{relation.toText}'"
  | mergeStuck _ => "Unable to resolve software join plan. Verify relation definitions."
  | noMetrics => "At least one metric is required to build a query plan"
  | planUnsupported kind => "Unsupported query plan: " ++ kind.toText
  | aggregationUnmergeable kind aliasName =>
    s!"Aggregation '{kind.toText}' ({aliasName.toText}) cannot be merged across backends"
  | circularDependency metric => "Circular dependency detected for metric: " ++ metric.toText
  | unknownDependency metric dependency _ =>
    s!"Computed metric '{metric.toText}' depends on unknown metric '{dependency.toText}'"
  | granularityUnsupported granularity grammar =>
    "Unsupported granularity: " ++ granularity.toText ++ about grammar " (grammar: " ")"
  | dialectUnsupported dialect _ => s!"No grammar registered for dialect '{dialect.toText}'"
  | cteUnsupported driver =>
    s!"Driver '{driver.toText}' does not support common table expressions"
  | driverNotFound name _ => s!"No query driver registered for '{name.toText}'"
  | driverUnavailable _ package =>
    s!"{package.toText} not installed. Run: pip install {package.toText}"
  | queryFailed driver _ reason => s!"{driver.toText} query failed: {reason.toText}"
  | compilerNotFound kind backend =>
    s!"No compiler registered for aggregation '{kind.toText}' on backend '{backend.toText}' " ++
      "and no default compiler is available"
  | invalidAggregation message => message
  | invalidExpression expression reason =>
    s!"Invalid computed metric expression '{expression.toText}': {reason.toText}"
  | reported _ message _ _ => message

/-- What a log records besides the message. -/
def details : Cause → Value
  | tableNotFound table provider available _ =>
    .record ([("table", table)] ++ (if provider.isTrue then [("provider", provider)] else []) ++
      (match available with
        | some names => [("available_providers", .list names)]
        | none => []))
  | ambiguousTable table providers =>
    .record [("table", table), ("providers", .list providers)]
  | referenceNotFound reference _ provider =>
    .record [("reference", reference), ("provider", provider)]
  | catalogUnreadable path _ => .record [("path", path)]
  | cacheFailed _ backend => .record [("backend", backend)]
  | joinPathNotFound table connected =>
    .record [("table", table), ("connected", .list connected)]
  | relationUnhandled type relation =>
    .record [("relation_type", type), ("relation", relation)]
  | mergeStuck pending => .record [("pending_relations", .list pending)]
  | noMetrics => .record []
  | planUnsupported kind => .record [("plan_type", kind)]
  | aggregationUnmergeable kind aliasName => .record [("kind", kind), ("alias", aliasName)]
  | circularDependency metric => .record [("metric", metric)]
  | unknownDependency metric dependency available =>
    .record [("metric", metric), ("dependency", dependency), ("available", .list available)]
  | granularityUnsupported granularity grammar =>
    .record [("granularity", granularity), ("grammar", grammar)]
  | dialectUnsupported dialect available =>
    .record [("dialect", dialect), ("available", .list available)]
  | cteUnsupported driver => .record [("driver", driver)]
  | driverNotFound name available =>
    .record ([("driver", name)] ++ (match available with
      | some names => [("available", .list names)]
      | none => []))
  | driverUnavailable driver package => .record [("driver", driver), ("package", package)]
  | queryFailed driver sql _ => .record [("driver", driver), ("sql", sql)]
  | compilerNotFound kind backend => .record [("kind", kind), ("backend", backend)]
  | invalidAggregation _ => .record []
  | invalidExpression expression reason =>
    .record [("expression", expression), ("reason", reason)]
  | reported _ _ details _ => details

def suggestion : Cause → Value
  | tableNotFound .. => "Check that the table is declared by a registered schema provider"
  | ambiguousTable table providers =>
    .ofText? ((qualified table providers).head?.map fun first =>
      s!"Use a provider prefix, e.g. '{first}'")
  | referenceNotFound .. => "Expected format: 'table.column' or 'provider:table.column'"
  | joinPathNotFound .. =>
    "Declare a relation between the tables or request a dimension both tables share"
  | noMetrics => "Add an aggregation such as Sum.make('orders.total')"
  | aggregationUnmergeable .. =>
    "Query this metric from tables that share one joinable connection"
  | circularDependency _ =>
    "Break the cycle so every computed metric bottoms out in aggregations"
  | unknownDependency .. => "Request the dependency alongside the computed metric"
  | driverNotFound .. =>
    "Register a driver with DriverManager.register() or set a default driver"
  | compilerNotFound kind _ =>
    s!"Register one with compiler.register('{kind.toText}', \x7b'default': fn\x7d)"
  | invalidExpression .. =>
    "Use metric aliases, numbers, + - * / %, parentheses, NULLIF, COALESCE and ABS"
  | reported _ _ _ suggestion => suggestion
  | _ => .null

/-- The error as a document: details and suggestion only when there are any. -/
def payload (cause : Cause) : Value :=
  .record [("error", .record (
    [("code", .text cause.code), ("message", cause.message)] ++
    (if cause.details.isTrue then [("details", cause.details)] else []) ++
    (if cause.suggestion.isTrue then [("suggestion", cause.suggestion)] else [])))]

def logLine (cause : Cause) : String :=
  s!"[{cause.code}] {cause.message.toText}" ++
    (if cause.details.isTrue then " | details=" ++ cause.details.toText else "")

end Cause

/-- What goes wrong below the planner. -/
inductive Fault where
  | missingKey
  | wrongType
  | noSuchMember
  | badValue
  | unparsable
  | unclosedQuote
  | badDocument
  | badSettings
  | backendFailed
  | connectionLost
  | overflow
  | endless
  | outOfRange
  | noMatch
  | invalidOperation
  deriving DecidableEq, Inhabited

/-- Why an operation has no result. -/
inductive Error where
  | refused (cause : Cause)
  | fault (fault : Fault)
  | badValue (message : String)
  | wrongType (message : String)
  | invalidFields (fields : List (String × String))
  deriving Inhabited

/-- The result of an operation that may be refused. -/
abbrev Outcome := Except Error

def refuse {α : Type} (cause : Cause) : Outcome α := .error (.refused cause)

def fail {α : Type} (fault : Fault) : Outcome α := .error (.fault fault)

end Datacube
