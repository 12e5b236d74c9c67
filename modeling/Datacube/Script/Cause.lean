import Datacube.Script.Vocabulary

/-!
# Causes in scripts

A cause is described by its kind and the fields that it was made from.
-/

namespace Datacube.Cause

/-- The fields that causes of each kind are made from. -/
def signatures : List (String × Signature) :=
  [("SliceError", .upTo ["code", "message"] ["details", "suggestion"]),
   ("TableNotFound", .upTo ["table"] ["provider", "available_providers", "reason"]),
   ("AmbiguousTable", .exactly ["table", "providers"]),
   ("ReferenceNotFound", .upTo ["reference"] ["reason", "provider"]),
   ("CatalogLoadError", .exactly ["path", "reason"]),
   ("SchemaCacheError", .upTo ["message"] ["backend"]),
   ("JoinPathNotFound", .exactly ["table", "connected"]),
   ("UnhandledRelationType", .exactly ["relation_type", "relation"]),
   ("SoftwareJoinError", .exactly ["pending"]), ("NoMetricsError", .exactly []),
   ("UnsupportedQueryPlan", .exactly ["plan_type"]),
   ("UnsupportedSoftwareAggregation", .exactly ["kind", "alias"]),
   ("CircularDependency", .exactly ["metric"]),
   ("UnknownMetricDependency", .exactly ["metric", "dependency", "available"]),
   ("UnsupportedGranularity", .upTo ["granularity"] ["grammar"]),
   ("UnsupportedDialect", .exactly ["dialect", "available"]),
   ("CTEUnsupported", .exactly ["driver"]),
   ("DriverNotFound", .upTo ["name"] ["available"]),
   ("DriverUnavailable", .exactly ["driver", "package"]),
   ("QueryExecutionError", .exactly ["driver", "sql", "reason"]),
   ("CompilerNotFound", .exactly ["kind", "backend"]),
   ("InvalidAggregation", .exactly ["message"]),
   ("InvalidExpression", .exactly ["expression", "reason"])]

/-- A list of names, each of which must be a text. -/
def namesOf (v : Value) : Outcome (List Value) := do
  let names ← v.toItems
  if names.all fun
    | .text _ => true
    | _ => false
  then return names else fail .wrongType

def listed? (read : Value → Outcome (List Value)) (v : Value) : Outcome (Option (List Value)) :=
  if v.isNull then .ok none else some <$> read v

def codeOf (v : Value) : Outcome String :=
  match codeNames.find? fun c => v.isText c.1 with
  | some (_, code) => .ok code
  | none => fail .missingKey

/-- The cause of a kind with the given fields, which are checked to be there. -/
def made (kind : String) (v : Value) : Outcome Cause := do
  let field := v.member
  match kind with
  | "SliceError" =>
    return .reported (← codeOf (field "code")) (field "message")
      (v.memberOr "details" (.object [])) (field "suggestion")
  | "TableNotFound" =>
    return .tableNotFound (field "table") (field "provider")
      (← listed? namesOf (field "available_providers")) (field "reason")
  | "AmbiguousTable" => return .ambiguousTable (field "table") (← namesOf (field "providers"))
  | "ReferenceNotFound" =>
    return .referenceNotFound (field "reference") (field "reason") (field "provider")
  | "CatalogLoadError" => return .catalogUnreadable (field "path") (field "reason")
  | "SchemaCacheError" => return .cacheFailed (field "message") (v.memberOr "backend" "memory")
  | "JoinPathNotFound" => return .joinPathNotFound (field "table") (← namesOf (field "connected"))
  | "UnhandledRelationType" =>
    return .relationUnhandled (field "relation_type").toText (field "relation")
  | "SoftwareJoinError" => return .mergeStuck (← (field "pending").toItems)
  | "NoMetricsError" => return .noMetrics
  | "UnsupportedQueryPlan" => return .planUnsupported (field "plan_type")
  | "UnsupportedSoftwareAggregation" =>
    return .aggregationUnmergeable (field "kind") (field "alias")
  | "CircularDependency" => return .circularDependency (field "metric")
  | "UnknownMetricDependency" =>
    return .unknownDependency (field "metric") (field "dependency") (← (field "available").toItems)
  | "UnsupportedGranularity" =>
    return .granularityUnsupported (field "granularity") (field "grammar")
  | "UnsupportedDialect" =>
    return .dialectUnsupported (field "dialect") (← (field "available").toItems)
  | "CTEUnsupported" => return .cteUnsupported (field "driver")
  | "DriverNotFound" =>
    return .driverNotFound (field "name") (← listed? Value.toItems (field "available"))
  | "DriverUnavailable" => return .driverUnavailable (field "driver") (field "package")
  | "QueryExecutionError" => return .queryFailed (field "driver") (field "sql") (field "reason")
  | "CompilerNotFound" => return .compilerNotFound (field "kind") (field "backend")
  | "InvalidAggregation" => return .invalidAggregation (field "message")
  | "InvalidExpression" => return .invalidExpression (field "expression") (field "reason")
  | _ => Call.unknown

/-- The cause of a kind with the given fields. A code is looked up before anything else. -/
def ofFields (kind : String) (v : Value) : Outcome Cause := do
  match signatures.lookup kind with
  | none => Call.unknown
  | some signature =>
    let _ ← (v.field? "code").mapM codeOf
    if signature.fits ⟨kind, [], v.members⟩ then made kind v else fail .wrongType

/-- The fields by which a cause can be told from others of its kind. -/
def attributes : Cause → Entries Value Value
  | tableNotFound table provider _ _ => [("table", table), ("provider", provider)]
  | ambiguousTable table providers => [("table", table), ("providers", .list providers)]
  | referenceNotFound reference _ _ => [("reference", reference)]
  | joinPathNotFound table _ => [("table", table)]
  | granularityUnsupported granularity _ => [("granularity", granularity)]
  | compilerNotFound kind backend => [("kind", kind), ("backend", backend)]
  | _ => []

/-- What a logger can be told, with the level that it writes. -/
def logLevels : List (String × String) :=
  [("debug", "DEBUG"), ("info", "INFO"), ("warning", "WARNING"), ("warn", "WARNING"),
   ("error", "ERROR"), ("exception", "ERROR"), ("critical", "CRITICAL"), ("fatal", "CRITICAL")]

/-- What a logger has and cannot be told with a message alone. -/
def logMembers : List String :=
  ["name", "level", "parent", "propagate", "handlers", "filters", "disabled", "root", "manager",
   "log", "getEffectiveLevel", "hasHandlers", "makeRecord"]

/-- The level under which a cause is logged: an error, unless another one is asked for. -/
def logLevel (c : Call) : Outcome String := do
  if !(Signature.upTo [] ["level"]).fits c then fail .wrongType
  match c.argumentOr 0 "level" "error" with
  | .text name => match logLevels.lookup name with
    | some level => return level
    | none => fail (if logMembers.contains name then .wrongType else .noSuchMember)
  | _ => fail .wrongType

/-- The message as a text, which it has to be. -/
def messageText (c : Cause) : Outcome String :=
  match c.message with
  | .text s => .ok s
  | _ => fail .wrongType

end Datacube.Cause
