import Datacube.Query.Build
import Datacube.Script.Vocabulary

/-!
# Queries in scripts

A query is built by calls, each of which takes one step. A definition names the result of another
query, which is built by a script of its own.
-/

namespace Datacube

namespace Dialect

def ofValue (v : Value) : Outcome Dialect := do Dialect.ofName (← v.onlyText)

def vocabulary : Vocabulary where
  calls := Vocabulary.questions ["name", "supported_granularities"] ++
    [("supports_granularity", .exactly ["granularity"]),
     ("format_time_bucket", .exactly ["table", "column", "granularity"]),
     ("wrap", .exactly ["value"])] ++
    Vocabulary.unchecked ["dialect"]
  fields := ["NAME", "DIALECT", "TIME_BUCKETS"]

def answer (d : Dialect) (c : Call) : Outcome Value := do
  vocabulary.check c
  match c.name with
  | "name" => return .text d.name
  | "dialect" => return .ofText? d.spoken?
  | "__repr__" => return .text d.label
  | "supported_granularities" => return .texts d.granularities
  | "supports_granularity" => return .bool (d.supports (← c.label 0 "granularity"))
  | "format_time_bucket" =>
    return .text (← d.timeBucket (← c.required 0 "table") (← c.required 1 "column")
      (← c.label 2 "granularity"))
  | "wrap" => return .text (← d.wrapValue (← c.required 0 "value"))
  | _ => Call.unknown

end Dialect

def Driver.ofScript (identity : String) (v : Value) : Outcome Driver := do
  let dialect (other : String) := Dialect.ofValue (v.memberOr "dialect" other)
  let joins := v.memberOr "supports_joins" (.bool true)
  let definitions := v.memberOr "supports_ctes" (.bool true)
  match (v.member "type").textOr "recording" with
  | "sql" => do
    let d ← dialect "sqlite"
    return ⟨identity, (v.member "name").orElse d.name, d, .relational, joins, definitions⟩
  | "clickhouse" =>
    return ⟨identity, "clickhouse", .clickhouse, .clickhouse, .bool true, definitions⟩
  | _ => do
    return ⟨identity, v.memberOr "name" "recording", ← dialect "postgres", .recorded, joins,
      .bool true⟩

/-- The columns of a selection: one text or a list. -/
def Value.toColumns : Value → Outcome (List Value)
  | .text s => .ok [.text s]
  | v => v.toItems

def QueryStep.ofCall? (c : Call) : Option (Outcome QueryStep) :=
  let column := c.required 0 "column"
  let table := c.required 0 "table"
  let expression := c.required 0 "expression"
  let values : Outcome (List Value) := do (← c.required 1 "values").toItems
  match c.name with
  | "select" => some (do return .select (← (← c.required 0 "columns").toColumns))
  | "select_raw" => some (do return .selectRaw (← expression))
  | "from_" => some (do return .source (← table))
  | "from_raw" => some (do return .subquery (← c.required 0 "sql") (← c.required 1 "alias"))
  | "join" => some (do
      return .join (← table) (← c.required 1 "first") (← c.required 2 "operator")
        (← c.required 3 "second") (c.argumentOr 4 "type" "inner"))
  | "cross_join" => some (do return .crossJoin (← table))
  | "where" => some (do
      return .filter (← column) (← c.required 1 "operator") (← c.required 2 "value"))
  | "where_in" => some (do return .filterIn (← column) (← values))
  | "where_not_in" => some (do return .filterOut (← column) (← values))
  | "group_by" => some (do return .group (← column))
  | "group_by_raw" => some (do return .groupRaw (← expression))
  | "order_by" => some (do return .order (← column) (c.argumentOr 1 "direction" "asc"))
  | "order_by_raw" => some (do return .orderRaw (← expression))
  | _ => none

def QueryStep.recorded : QueryStep → Value
  | .source x => .list ["from", x]
  | .subquery sql aliasName => .list ["from_raw", sql, aliasName]
  | .select columns => .list ["select", .list columns]
  | .selectRaw e => .list ["select_raw", e]
  | .join x first operator second type => .list ["join", x, first, operator, second, type]
  | .crossJoin x => .list ["cross_join", x]
  | .filter c operator v => .list ["where", c, operator, v]
  | .filterIn c vs => .list ["where_in", c, .list vs]
  | .filterOut c vs => .list ["where_not_in", c, .list vs]
  | .group c => .list ["group_by", c]
  | .groupRaw e => .list ["group_by_raw", e]
  | .order c direction => .list ["order_by", c, direction]
  | .orderRaw e => .list ["order_by_raw", e]
  | .define name _ => .list ["with", name]

namespace Query

def vocabulary (backend : Backend) : Vocabulary where
  calls :=
    Vocabulary.questions ["execute", "to_sql", "supports_ctes", "driver_name"] ++
    [("select", .exactly ["columns"]), ("select_raw", .exactly ["expression"]),
     ("from_", .exactly ["table"]), ("from_raw", .exactly ["sql", "alias"]),
     ("join", .upTo ["table", "first", "operator", "second"] ["type"]),
     ("cross_join", .exactly ["table"]), ("where", .exactly ["column", "operator", "value"]),
     ("where_in", .exactly ["column", "values"]), ("where_not_in", .exactly ["column", "values"]),
     ("group_by", .exactly ["column"]), ("group_by_raw", .exactly ["expression"]),
     ("order_by", .upTo ["column"] ["direction"]), ("order_by_raw", .exactly ["expression"])] ++
    Vocabulary.unchecked ("with_expression" :: if backend = .relational then ["dialect"] else [])
  fields := if backend = .relational then ["expression"] else []

def takeOutcome (q : Query) (step : Outcome QueryStep) : Outcome Unit × Query :=
  match step with
  | .ok s => q.take s
  | .error e => (.error e, q)

/-- The query after the calls of a script, each of which must succeed. -/
def afterAll (step : Query → Call → Option (Outcome Unit × Query)) (q : Query)
    (calls : List Call) : Outcome Query :=
  calls.foldlM (fun q c => match step q c with
    | some (out, q) => out.map fun _ => q
    | none => do
      (vocabulary q.driver.backend).check c
      return q) q

/-- The definition that a call asks for; `after` gives the query that a script fills. A definition
is given a new query to fill, a query on a table, or something that is no query; a new query that
is not handed back counts as filled only where the backend looks at the one it gave out. A backend
that only keeps the steps does not look at it. -/
def defined (after : Query → List Call → Outcome Query) (q : Query) (c : Call) :
    Outcome QueryStep := do
  let name ← c.required 0 "name"
  let spec ← c.required 1 "query"
  if q.driver.backend = .recorded then return .define name ""
  let elsewhere : Outcome Query := do after (← q.driver.query (spec.member "table")) spec.calls
  match (spec.member "mode").textOr "callable" with
  | "adapter" =>
    let other ← elsewhere
    q.checkDefinitions
    definition name other
  | mode =>
    q.checkDefinitions
    match mode with
    | "bad" => .error q.notDefinable
    | "replace" =>
      let other ← elsewhere
      definition name (if q.driver.backend = .clickhouse then .blank q.driver else other)
    | _ => definition name (← after (.blank q.driver) spec.calls)

/-- The query after a call, and whether it could be taken. The depth bounds how far definitions
nest. -/
def taken : Nat → Query → Call → Option (Outcome Unit × Query)
  | 0, _, _ => none
  | depth + 1, q, c =>
    let step? := (QueryStep.ofCall? c).or
      (if c.name == "with_expression" then some (defined (afterAll (taken depth)) q c) else none)
    ((vocabulary q.driver.backend).checked c step?).map q.takeOutcome

end Query
end Datacube
