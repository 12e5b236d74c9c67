import Datacube.Query.Basic
import Datacube.Query.Literal
import Datacube.Sql.Statement
import Datacube.Text.Word
import Datacube.Value.Reading

/-!
# Queries in SQL

How the steps of a query are written in the SQL of a dialect. Tables and columns are quoted; raw
fragments are read and written anew in canonical form, and kept as they are when they cannot be
read. A join that the dialect lacks is written by what it means: a full join as the union of a left
and a right one, a semi join as a condition.
-/

namespace Datacube.Query.Relational
open Text Sql

/-! ## Names -/

/-- A table, with its schema before the first point. -/
def table (d : Dialect) (name : String) : String :=
  match splitFirst? '.' name with
  | some (schema, name) => d.quote schema ++ "." ++ d.quote name
  | none => d.quote name

/-- A column, with its table before the last point. -/
def column (d : Dialect) (reference : String) : String :=
  match splitLast? '.' reference with
  | some (table, column) =>
    if table.isEmpty then d.wrapPart column else d.quote table ++ "." ++ d.wrapPart column
  | none => d.wrapPart reference

def columnOf (d : Dialect) (v : Value) : Outcome String := do return column d (← v.onlyText)

def selected (d : Dialect) (s : String) : String :=
  match Dialect.cutAlias? s with
  | some (reference, aliasName) =>
    if aliasName.isEmpty then column d reference
    else column d reference ++ " AS " ++ d.quote aliasName
  | none => column d (strip s)

def source : Value → Outcome String
  | .text s => .ok s
  | _ => fail .wrongType

/-- What becomes of a fragment that cannot be read. -/
def readable {α : Type} : Except SyntaxError α → Outcome α
  | .ok x => .ok x
  | .error .malformed => fail .unparsable
  | .error .unclosedQuote => fail .unclosedQuote

def fragment (d : Dialect) (v : Value) : Outcome String := do
  let s ← source v
  match Expr.parse d s with
  | .ok e => return e.render d
  | .error .malformed => return s
  | .error .unclosedQuote => fail .unclosedQuote

/-- A raw query, which must be well formed. -/
def rawQuery (d : Dialect) (v : Value) : Outcome String := do
  let e ← readable (Expr.parse d (← source v))
  if e.isQuery then return e.render d else fail .noSuchMember

/-- Whether a subquery's alias stands without quotes. A line break at its end does not count. -/
def isPlainName (s : String) : Bool :=
  match s.toList with
  | [] => false
  | c :: rest =>
    let rest := if rest.getLast? = some '\n' then rest.dropLast else rest
    (c.isAlpha || c = '_') && rest.all isWordChar

/-- The alias of a subquery with the word before it; what counts as absent is none. -/
def subqueryAlias (d : Dialect) (aliasName : Value) : Outcome String :=
  if !aliasName.isTrue then .ok ""
  else match aliasName with
    | .text s => .ok (" AS " ++ (⟨s, !isPlainName s⟩ : Ident).render d)
    | _ => fail .badValue

/-- The name of a definition, which is read as the alias of a table. -/
def definitionName (d : Dialect) (name : Value) : Outcome String :=
  if name.isNull then fail .unparsable
  else do return (← readable (TableAlias.parse name.toText)).render d

/-! ## Conditions -/

def comparisons : List (String × String) :=
  [("=", "="), ("==", "="), ("!=", "<>"), ("<>", "<>"), (">", ">"), (">=", ">="), ("<", "<"),
   ("<=", "<="), ("like", "LIKE")]

/-- A comparison of two rendered sides. -/
def comparison (left : String) (operator : Value) (right : String) : Outcome String := do
  let key := lower (strip (← operator.onlyText))
  if key == "not like" then return "NOT " ++ left ++ " LIKE " ++ right
  else match comparisons.lookup key with
    | some sign => return left ++ " " ++ sign ++ " " ++ right
    | none => .error (.badValue ("Unsupported comparison operator: " ++ operator.toText))

/-- Whether an operator compares for equality, beside which SQL Server writes truth values as
numbers. -/
def isEquality (operator : Value) : Bool :=
  ["=", "==", "!=", "<>"].contains (strip operator.toText)

def condition (d : Dialect) (reference operator v : Value) : Outcome String := do
  comparison (← columnOf d reference) operator (Literal.standard d (isEquality operator) v)

/-- The test whether a column has one of the values. -/
def membership (d : Dialect) (reference : Value) (values : List Value) : Outcome String := do
  return (← columnOf d reference) ++ " IN (" ++
    join ", " (values.map (Literal.standard d true)) ++ ")"

/-- The test whether a column has none of the values. -/
def exclusion (d : Dialect) (reference : Value) (values : List Value) : Outcome String := do
  let test ← membership d reference values
  return if d = .clickhouse then "NOT (" ++ test ++ ")" else "NOT " ++ test

/-- Several conditions as one: every further one is joined to all before it. -/
def conjunction : List String → Option String
  | [] => none
  | [a] => some a
  | a :: b :: rest =>
    some (rest.foldl (fun acc c => "(" ++ acc ++ ") AND " ++ c) (a ++ " AND " ++ b))

/-- A sort key; where nulls would not come first in ascending and last in descending order the
dialect says so. -/
def sortKey (d : Dialect) (key : String) (descending : Bool) : String :=
  if descending then key ++ " DESC" ++ (if d = .postgres then " NULLS LAST" else "")
  else key ++ " ASC" ++
    (if d = .postgres || d = .duckdb || d = .clickhouse then " NULLS FIRST" else "")

/-! ## Clauses -/

/-- A join: its type in upper case, the table and the condition, which a cross join lacks. -/
structure Link where
  type : String
  table : String
  condition : Option String

def Link.text (l : Link) : String :=
  (if l.type.isEmpty then "JOIN" else if l.type == "STRAIGHT_JOIN" then l.type
    else l.type ++ " JOIN") ++ " " ++ l.table ++
  (match l.condition with
    | some c => " ON " ++ c
    | none => "")

/-- The written parts of every clause of a query. -/
structure Selection where
  definitions : List String
  columns : List String
  source : Option String
  links : List Link
  conditions : List String
  groups : List String
  orders : List String

namespace Selection

def empty : Selection := ⟨[], [], none, [], [], [], []⟩

def extend (d : Dialect) (s : Selection) : QueryStep → Outcome Selection
  | .source t => do return { s with source := some (table d (← t.onlyText)) }
  | .subquery sql aliasName => do
    let text ← rawQuery d sql
    return { s with source := some ("(" ++ text ++ ")" ++ (← subqueryAlias d aliasName)) }
  | .select columns => do
    return { s with columns := s.columns ++
      (← columns.mapM fun c => do return selected d (← c.onlyText)) }
  | .selectRaw e => do return { s with columns := s.columns ++ [← fragment d e] }
  | .join t first operator second type => do
    let test ← comparison (← columnOf d first) operator (← columnOf d second)
    let type ← type.onlyText
    let link : Link := ⟨upper type, table d (← t.onlyText), some test⟩
    return { s with links := s.links ++ [link] }
  | .crossJoin t => do
    return { s with links := s.links ++ [⟨"CROSS", table d (← t.onlyText), none⟩] }
  | .filter reference operator v => do
    return { s with conditions := s.conditions ++ [← condition d reference operator v] }
  | .filterIn reference values => do
    -- No values admit no row, and below they exclude none.
    let test ← if values.isEmpty then pure (Literal.truth d false false)
      else membership d reference values
    return { s with conditions := s.conditions ++ [test] }
  | .filterOut reference values => do
    if values.isEmpty then return s
    return { s with conditions := s.conditions ++ [← exclusion d reference values] }
  | .group reference => do return { s with groups := s.groups ++ [← columnOf d reference] }
  | .groupRaw e => do return { s with groups := s.groups ++ [← fragment d e] }
  | .order reference direction => do
    let descending := lower (← direction.onlyText) == "desc"
    return { s with orders := s.orders ++ [sortKey d (← columnOf d reference) descending] }
  | .orderRaw e => do
    return { s with orders := s.orders ++ [sortKey d (← fragment d e) false] }
  | .define name sql => do
    return { s with definitions :=
      s.definitions ++ [Clauses.definition (← definitionName d name) sql] }

def ofSteps (d : Dialect) (steps : List QueryStep) : Outcome Selection :=
  steps.foldlM (extend d) empty

/-- A clause of several items behind its keyword; items without text are left out. -/
def clause (keyword : String) (items : List String) : List String :=
  if items.isEmpty then []
  else match items.filter (!·.isEmpty) with
    | [] => [keyword]
    | items => [keyword ++ " " ++ join ", " items]

/-- The text of a selection; without columns it selects all. -/
def text (s : Selection) : String :=
  join " " (
    Clauses.listed "WITH" s.definitions ++
    clause "SELECT" (if s.columns.isEmpty then ["*"] else s.columns) ++
    Clauses.single "FROM" s.source ++ s.links.map Link.text ++
    Clauses.single "WHERE" (conjunction s.conditions) ++
    clause "GROUP BY" s.groups ++ clause "ORDER BY" s.orders)

/-! ## Joins that a dialect lacks -/

/-- The test whether a table has a row that meets a condition. -/
def existence (source : Option String) (condition : String) : String :=
  "EXISTS(" ++ { empty with columns := ["1"], source, conditions := [condition] }.text ++ ")"

def lacksSemiJoins : Dialect → Bool
  | .mysql | .singlestore | .postgres | .sqlite | .sqlserver => true
  | _ => false

def lacksFullJoins : Dialect → Bool
  | .mysql | .singlestore => true
  | _ => false

/-- The condition that stands for a semi or an anti join. -/
def semiJoin? (l : Link) : Option String :=
  match l.type, l.condition with
  | "SEMI", some c => some (existence (some l.table) c)
  | "ANTI", some c => some ("NOT " ++ existence (some l.table) c)
  | _, _ => none

/-- Semi and anti joins as conditions: the joins that stay, and the conditions. The join after one
that is taken out stays as it is. -/
def cutSemiJoins : List Link → List Link × List String
  | [] => ([], [])
  | l :: rest => match semiJoin? l, rest with
    | none, rest =>
      let (links, conditions) := cutSemiJoins rest
      (l :: links, conditions)
    | some c, [] => ([], [c])
    | some c, next :: rest =>
      let (links, conditions) := cutSemiJoins rest
      (next :: links, c :: conditions)

def withoutSemiJoins (d : Dialect) (s : Selection) : Selection :=
  if lacksSemiJoins d then
    let (links, conditions) := cutSemiJoins s.links
    { s with links, conditions := s.conditions ++ conditions }
  else s

/-- The joins with another type for the full one. -/
def retyped (links : List Link) (type : String) : List Link :=
  links.map fun l => if l.type == "FULL" then { l with type } else l

/-- The text of a selection in a dialect. A dialect without full joins takes a single one apart: the
rows of the left join, and those of the right join that the left one lacks. -/
def write (d : Dialect) (s : Selection) : Outcome String :=
  let s := s.withoutSemiJoins d
  match lacksFullJoins d, s.links.filter (·.type == "FULL") with
  | true, [l] =>
    if s.source.isNone then fail .missingKey
    else
      let left := { s with links := retyped s.links "LEFT", orders := [] }
      -- Rows that the left join gave already are kept out of the right one.
    let absent := "NOT " ++ existence s.source (l.condition.getD "")
      let right := { s with
        definitions := [], links := retyped s.links "RIGHT",
        conditions := s.conditions ++ [absent] }
      .ok (left.text ++ " UNION ALL " ++ right.text)
  | _, _ => .ok s.text

end Selection

def sql (d : Dialect) (steps : List QueryStep) : Outcome String := do
  (← Selection.ofSteps d steps).write d

/-- What becomes of a step that cannot be taken as a whole: the columns before the first one that is
no text are selected. -/
def rest : QueryStep → Option QueryStep
  | .select columns => some (.select (columns.takeWhile fun
    | .text _ => true
    | _ => false))
  | _ => none

end Datacube.Query.Relational
