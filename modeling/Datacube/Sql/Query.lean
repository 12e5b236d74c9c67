import Datacube.Sql.Level

/-!
# Queries

A query selects columns from joined tables; conditions, groups, orders and bounds follow, and
further queries behind `UNION` and its like. Every clause is kept as it is read, behind the ones
before it.
-/

namespace Datacube.Sql.Parse
open Text

/-- Where nulls stand among the values of a sort key: below all, above all, or always last. -/
inductive NullOrder where
  | small
  | large
  | last

def nullOrder : Dialect → NullOrder
  | .postgres => .large
  | .duckdb | .clickhouse => .last
  | _ => .small

/-- What says where nulls stand, left out where the dialect puts them there by itself. -/
def nullPhrase (order : NullOrder) (descending first : Bool) : String :=
  match order, descending, first with
  | .large, false, true | .small, true, true | .last, _, true => " NULLS FIRST"
  | .small, false, false | .large, true, false => " NULLS LAST"
  | _, _, _ => ""

variable (d : Dialect) (inner : Part → Parse (Option Expr))

def sortKey : Parse (Option Expr) := do
  match ← assignment d inner with
  | none => return none
  | some e =>
    let ascending ← word? "ASC"
    let descending ← if ascending then pure false else word? "DESC"
    let phrase := if ascending then "ASC" else if descending then "DESC" else ""
    let nulls := nullPhrase (nullOrder d) descending
    let phrase ← if ← words? ["NULLS", "FIRST"] then pure (phrase ++ nulls true)
      else if ← words? ["NULLS", "LAST"] then pure (phrase ++ nulls false)
      else pure phrase
    let phrase := strip phrase
    return some (if phrase.isEmpty then e else .followed e (.verbatim phrase))

/-- An order, if one follows. -/
def order? : Parse (Option Expr) := do
  if ← word? "ORDER BY" then
    match ← listed (sortKey d inner) with
    | [] => failure
    | keys => return some (.prefixed "ORDER BY" keys)
  else return none

/-! ## Tables -/

/-- The alias of a table. A name for its columns may follow in parentheses. -/
def tableAlias : Parse (Option TableAlias) := do
  let explicit ← word? "AS"
  let found ← if explicit then anyName? else name? joinWords
  let name ← match found, ← next with
    | none, some (.string s) =>
      skip
      pure (some ⟨s, true⟩)
    | name, _ => pure name
  match name with
  | none => return none
  | some name =>
    let columns ← if ← sign? "(" then enclosed (name? []) else pure []
    return some ⟨name, columns⟩

/-- A table or a query in parentheses, with its alias. -/
def table : Parse (Option Expr) := do
  match ← inner .operand with
  | some e => return some (← withAlias inner joinWords e)
  | none => failure

/-- The words that begin a join and say of which kind it is. -/
def joinKinds : List String :=
  ["NATURAL", "ASOF", "LEFT", "RIGHT", "FULL", "INNER", "OUTER", "CROSS", "SEMI", "ANTI"]

/-- The kind of a join up to its last word, if a join follows. -/
def joinKind? : Parse (Option String) := fun tokens =>
  let kinds := (tokens.takeWhile fun t => joinKinds.any t.isWord).filterMap fun
    | .word s => some (upper s)
    | _ => none
  match tokens.drop kinds.length with
  | t :: rest =>
    if t.isWord "JOIN" then some (some (join " " (kinds ++ ["JOIN"])), rest)
    else if kinds.isEmpty && t.isWord "STRAIGHT_JOIN" then some (some "STRAIGHT_JOIN", rest)
    else some (none, tokens)
  | [] => some (none, tokens)

def joined (kind : String) : Parse Expr := do
  let table ← required (table inner)
  let link := Expr.prefixed kind [table]
  if ← word? "ON" then
    return .followed link (.prefixed "ON" [← required (assignment d inner)])
  else if ← word? "USING" then
    expect "("
    let columns ← enclosed (name? [])
    return .followed link (.prefixed "USING" [.tuple (columns.map .ident)])
  else return link

/-- The tables of a query: a list behind `FROM`, and joins. -/
def tables (e : Expr) : Parse Expr := do
  let sources ← listed (table inner)
  iterate (fun e => do
    match ← joinKind? with
    | some kind => return some (.followed e (← joined d inner kind))
    | none => return none) (.followed e (.prefixed "FROM" sources))

/-! ## Clauses -/

def conditionClauses : List (String × String) :=
  [("WHERE", "WHERE"), ("HAVING", "HAVING"), ("QUALIFY", "QUALIFY")]

/-- The bound on the number of rows. Of two numbers the first one is the number of rows left out. -/
def bound (e : Expr) : Parse Expr := do
  let first ← required (term inner)
  if ← sign? "," then
    let count ← required (term inner)
    return .followed (.followed e (.prefixed "LIMIT" [count])) (.prefixed "OFFSET" [first])
  else return .followed e (.prefixed "LIMIT" [first])

/-- A query with the next clause behind it, if one follows. -/
def clause? (e : Expr) : Parse (Option Expr) := do
  if let some keyword ← operator? conditionClauses then
    return some (.followed e (.prefixed keyword [← required (assignment d inner)]))
  if ← word? "GROUP BY" then
    match ← listed (assignment d inner) with
    | [] => failure
    | keys => return some (.followed e (.prefixed "GROUP BY" keys))
  if let some order ← order? d inner then return some (.followed e order)
  if ← word? "LIMIT" then return some (← bound inner e)
  if ← word? "OFFSET" then
    let count ← required (term inner)
    let _ ← take? fun t => t.isWord "ROW" || t.isWord "ROWS"
    return some (.followed e (.prefixed "OFFSET" [count]))
  return none

/-- An operation between queries, if one follows. -/
def setOperation? : Parse (Option String) := do
  match ← operator? (["UNION", "EXCEPT", "INTERSECT"].map fun s => (s, s)) with
  | none => return none
  | some sign =>
    if ← word? "ALL" then return some (sign ++ " ALL")
    let _ ← word? "DISTINCT"
    return some sign

/-- A query with the clauses and further queries that follow it. -/
def continued (simple : Parse (Option Expr)) (e : Expr) : Parse Expr :=
  iterate (fun e => do
    match ← clause? d inner e with
    | some e => return some e
    | none => match ← setOperation? with
      | some sign => return some (.binary sign e (← required simple))
      | none => return none) e

/-! ## Whole queries -/

/-- A query without clauses behind it: columns from tables, a list of rows, or one in
parentheses. -/
def simpleQuery : Parse (Option Expr) := do
  match ← get with
  | .word s :: rest =>
    match upper s, rest with
    | "SELECT", _ =>
      skip
      let modifier ← if ← word? "DISTINCT" then pure "DISTINCT" else do
        let _ ← word? "ALL"
        pure ""
      let e := Expr.select modifier (← listed (aliased d inner))
      if ← word? "FROM" then return some (← tables d inner e) else return some e
    | "FROM", _ =>
      skip
      return some (← tables d inner (.select "" [.star]))
    | "VALUES", .sign "(" :: _ =>
      skip
      return some (.prefixed "VALUES" (← listed (inner .operand)))
    | _, _ => return none
  | .sign "(" :: _ => do
    -- Parentheses begin an operand, which must turn out to be a query.
    match ← inner .operand with
    | some e => if e.isQuery then return some e else failure
    | none => failure
  | _ => return none

def definition : Parse (Option Expr) := do
  match ← tableAlias with
  | none => failure
  | some a =>
    expectWord "AS"
    let materialized ← if ← words? ["NOT", "MATERIALIZED"] then pure "AS NOT MATERIALIZED"
      else if ← word? "MATERIALIZED" then pure "AS MATERIALIZED" else pure "AS"
    let body ← required (simpleQuery d inner)
    return some (.binary materialized (.verbatim (a.render d)) body)

/-- A query, with the definitions before it. -/
def query : Parse (Option Expr) := do
  match ← next with
  | some (.word s) =>
    if upper s == "WITH" then
      skip
      let keyword := if ← word? "RECURSIVE" then "WITH RECURSIVE" else "WITH"
      let definitions ← listed (definition d inner)
      let body ← required (simpleQuery d inner)
      return some (.followed (.prefixed keyword definitions)
        (← continued d inner (simpleQuery d inner) body))
    else match ← simpleQuery d inner with
      | some e => return some (← continued d inner (simpleQuery d inner) e)
      | none => return none
  | _ => return none

/-- An item of a list: a query or an expression without alias. -/
def item : Parse (Option Expr) := do
  match ← query d inner with
  | some q => return some q
  | none => assignment d inner

end Datacube.Sql.Parse
