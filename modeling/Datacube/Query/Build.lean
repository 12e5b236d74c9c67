import Datacube.Query.ClickHouse
import Datacube.Query.Relational

/-!
# Building queries

`Query.take` takes one step and tells whether the backend could take it; `Query.text` is the text of
a query. What the backend of SQL cannot write it refuses at once, while ClickHouse may find out when
the query is written.
-/

namespace Datacube
open Text

namespace Query

/-- The text of a query inside another one. A backend that keeps the steps only counts them. -/
def body (q : Query) : Outcome String :=
  match q.driver.backend with
  | .relational => Relational.sql q.driver.dialect q.steps
  | .clickhouse => do return (← ClickHouse.clauses q).text
  | .recorded => .ok ("-- " ++ q.driver.name.toText ++ " (" ++ toString q.steps.length ++ ")")

/-- The text of a query. In SQL no blanks stand around it. -/
def text (q : Query) : Outcome String := do
  let body ← q.body
  return if q.driver.backend = .relational then strip body else body

def push (q : Query) (s : QueryStep) : Query := { q with steps := q.steps ++ [s] }

def check (q : Query) (s : QueryStep) : Outcome Unit :=
  match q.driver.backend with
  | .relational => do
    let _ ← Relational.Selection.empty.extend q.driver.dialect s
  | .clickhouse => ClickHouse.check s
  | .recorded => .ok ()

/-- Takes a step, and tells whether it could be taken. Of columns that are selected together those
before the first faulty one are kept in SQL. -/
def take (q : Query) (s : QueryStep) : Outcome Unit × Query :=
  match q.check s, q.driver.backend with
  | .ok (), _ => (.ok (), q.push s)
  | .error e, .relational => (.error e, (Relational.rest s).elim q q.push)
  | .error e, _ => (.error e, q)

/-- Takes steps in turn until one cannot be taken. -/
def takeAll (q : Query) : List QueryStep → Outcome Unit × Query
  | [] => (.ok (), q)
  | s :: rest => match q.take s with
    | (.ok (), q) => q.takeAll rest
    | failed => failed

/-- Takes steps, all of which the backend must be able to take. -/
def addAll (q : Query) (steps : List QueryStep) : Outcome Query := do
  let (out, q) := q.takeAll steps
  out
  return q

/-- Takes a step, which the backend must be able to take. -/
def add (q : Query) (s : QueryStep) : Outcome Query := q.addAll [s]

/-- Refuses to name the results of queries if the driver does not. -/
def checkDefinitions (q : Query) : Outcome Unit :=
  if q.driver.definitions.isTrue then .ok () else refuse (.cteUnsupported q.driver.name)

def definition (name : Value) (other : Query) : Outcome QueryStep := do
  return .define name (← other.body)

def notDefinable (q : Query) : Error :=
  .wrongType (match q.driver.backend with
    | .clickhouse => "CTE query must be a QueryAdapter or a callable"
    | _ => "CTE query must be a SqlQueryAdapter or a callable")

/-- How a failure of the backend on the text of a query is reported; a backend that keeps the steps
fails as it is. -/
def failure (q : Query) (sql : String) (reason : String) : Error :=
  match q.driver.backend with
  | .recorded => .fault .backendFailed
  | _ => .refused (.queryFailed q.driver.name sql reason)

end Query

namespace Driver

/-- A new query, which reads a table if one is given. -/
def query (d : Driver) (table : Value) : Outcome Query :=
  if table.isTrue then (Query.blank d).add (.source table) else .ok (.blank d)

/-- A new query that reads a table of a schema; one that stands for a query is read as such. -/
def queryFor (d : Driver) (t : Table) : Outcome Query :=
  if t.isVirtual then (Query.blank d).add (.subquery t.sql t.name) else d.query t.name

end Driver
end Datacube
