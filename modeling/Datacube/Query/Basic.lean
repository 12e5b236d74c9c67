import Datacube.Dialect
import Datacube.Schema.Table

/-!
# Queries

A query is the list of steps by which it was built, together with the driver that answers it. The
steps say what is selected, joined, filtered, grouped and ordered; the backend of the driver decides
how that is written. Steps hold what they were given: whether a name is a text is for the backend to
judge.
-/

namespace Datacube

/-- How the queries of a driver are written: in the SQL of its dialect, clause by clause for
ClickHouse, or not at all by a backend that only keeps the steps. -/
inductive Backend where
  | relational
  | clickhouse
  | recorded
  deriving DecidableEq, Repr

/-- What the planner knows of a driver. Two drivers are the same one when their identities are.
`joins` and `definitions` tell whether it joins tables and names the results of queries. -/
structure Driver where
  identity : String
  name : Value
  dialect : Dialect
  backend : Backend
  joins : Value
  definitions : Value

/-- A step of building a query. -/
inductive QueryStep where
  | source (table : Value)
  | subquery (sql aliasName : Value)
  | select (columns : List Value)
  | selectRaw (expression : Value)
  | join (table first operator second type : Value)
  | crossJoin (table : Value)
  | filter (column operator value : Value)
  | filterIn (column : Value) (values : List Value)
  | filterOut (column : Value) (values : List Value)
  | group (column : Value)
  | groupRaw (expression : Value)
  | order (column direction : Value)
  | orderRaw (expression : Value)
  | define (name : Value) (sql : String)

/-- A query of a driver: its steps in the order in which they were taken. -/
structure Query where
  driver : Driver
  steps : List QueryStep

namespace Query

def blank (driver : Driver) : Query := ⟨driver, []⟩

/-- The last table or subquery that the query reads. -/
def source? (q : Query) : Option QueryStep :=
  q.steps.reverse.find? fun
    | .source _ | .subquery .. => true
    | _ => false

/-- The clauses of a query in the order in which they are written. Several conditions make one. -/
structure Clauses where
  definitions : List String
  columns : List String
  source : Option String
  joins : List String
  condition : Option String
  groups : List String
  orders : List String

namespace Clauses

/-- A clause of several items behind its keyword; none without items. -/
def listed (keyword : String) (items : List String) : List String :=
  if items.isEmpty then [] else [keyword ++ " " ++ Text.join ", " items]

def single (keyword : String) (item : Option String) : List String :=
  match item with
  | some text => [keyword ++ " " ++ text]
  | none => []

def definition (name sql : String) : String := name ++ " AS (" ++ sql ++ ")"

/-- The text of a query; without columns it selects all. -/
def text (c : Clauses) : String :=
  Text.join " " (
    listed "WITH" c.definitions ++
    listed "SELECT" (if c.columns.isEmpty then ["*"] else c.columns) ++
    single "FROM" c.source ++ c.joins ++ single "WHERE" c.condition ++
    listed "GROUP BY" c.groups ++ listed "ORDER BY" c.orders)

end Clauses
end Query
end Datacube
