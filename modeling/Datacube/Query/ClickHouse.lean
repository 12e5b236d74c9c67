import Datacube.Query.Basic
import Datacube.Query.Literal
import Datacube.Value.Reading

/-!
# Queries for ClickHouse

How the steps of a query are written for ClickHouse: references and fragments stand as they are
given, and only values are quoted. A definition replaces an earlier one of the same name. What is
selected and grouped by must be texts by the time the query is written.
-/

namespace Datacube.Query.ClickHouse
open Text

def literals (values : List Value) : String :=
  "(" ++ join ", " (values.map Literal.clickhouse) ++ ")"

def condition? : QueryStep → Option String
  | .filter column operator v =>
    some (column.toText ++ " " ++ operator.toText ++ " " ++ Literal.clickhouse v)
  | .filterIn column values =>
    some (if values.isEmpty then "0 = 1" else column.toText ++ " IN " ++ literals values)
  | .filterOut column values =>
    if values.isEmpty then none else some (column.toText ++ " NOT IN " ++ literals values)
  | _ => none

def columns : QueryStep → List Value
  | .select columns => columns
  | .selectRaw e => [e]
  | _ => []

def join? : QueryStep → Option String
  | .join table first operator second type =>
    some (upper type.toText ++ " JOIN " ++ table.toText ++ " ON " ++ first.toText ++ " " ++
      operator.toText ++ " " ++ second.toText)
  | .crossJoin table => some ("CROSS JOIN " ++ table.toText)
  | _ => none

def group? : QueryStep → Option Value
  | .group column => some column
  | .groupRaw e => some e
  | _ => none

def order? : QueryStep → Option Value
  | .order column direction => some (.text (column.toText ++ " " ++ direction.toText))
  | .orderRaw e => some e
  | _ => none

def definition? : QueryStep → Option (Value × String)
  | .define name sql => some (name, sql)
  | _ => none

/-- What the query reads; a table that counts as absent is none. -/
def source (q : Query) : Option String :=
  match q.source? with
  | some (.source t) => if t.isTrue then some t.toText else none
  | some (.subquery sql aliasName) => some ("(" ++ sql.toText ++ ") AS " ++ aliasName.toText)
  | _ => none

def conjunction (conditions : List String) : Option String :=
  if conditions.isEmpty then none else some (join " AND " conditions)

/-- A list of what must be texts. -/
def texts (items : List Value) : Outcome (List String) :=
  items.mapM fun
    | .text s => .ok s
    | _ => fail .wrongType

/-- Whether a step can be taken: a join type is a text, and a definition has a key for its name. -/
def check : QueryStep → Outcome Unit
  | .join _ _ _ _ type => do let _ ← type.onlyText
  | .define name _ => if name.isKey then .ok () else fail .wrongType
  | _ => .ok ()

def clauses (q : Query) : Outcome Clauses := do
  return {
    definitions := (Entries.ofPairs (q.steps.filterMap definition?)).map fun d =>
      Clauses.definition d.1.toText d.2
    columns := ← texts (q.steps.flatMap columns)
    source := source q
    joins := q.steps.filterMap join?
    condition := conjunction (q.steps.filterMap condition?)
    groups := ← texts (q.steps.filterMap group?)
    orders := ← texts (q.steps.filterMap order?) }

end Datacube.Query.ClickHouse
