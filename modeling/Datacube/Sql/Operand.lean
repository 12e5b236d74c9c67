import Datacube.Sql.Query

/-!
# Operands

What stands between operators: literals, names, calls, queries and lists in parentheses, choices
and intervals, with the member accesses and type annotations behind them. `Parse.part` supplies the
grammar with the parts inside an expression. Every part takes a token before it meets another one
of the same kind, so twice the number of tokens bounds the depth.
-/

namespace Datacube.Sql.Parse
open Text

variable (d : Dialect) (inner : Part → Parse (Option Expr))

/-! ## Calls -/

/-- The parameters of a function that is written as an argument, with the arrow behind them. -/
def parameters? : Parse (Option (Expr × String)) := do
  let tokens ← get
  let parameters ← if ← sign? "(" then do
      let names ← listed (name? [])
      if ← sign? ")" then pure (some (Expr.tuple (names.map .ident))) else pure none
    else do pure ((← name? []).map .ident)
  match parameters, ← operator? [("->", "->"), ("=>", "=>")] with
  | some parameters, some arrow =>
    let parameters := match parameters with
      | .tuple [x] => x
      | e => e
    return some (parameters, arrow)
  | _, _ =>
    set tokens
    return none

/-- Distinct values as an argument. Dialects that count one value at a time count rows of several
values where none of them is null. -/
def distinctValues (items : List Expr) : Expr :=
  match d, items with
  | .postgres, _ :: _ :: _ | .duckdb, _ :: _ :: _ =>
    .prefixed "DISTINCT" [.choice none (items.map fun e => (.binary "IS" e .null, .null))
      (some (.tuple items))]
  | _, items => .prefixed "DISTINCT" items

/-- An argument of a call, with the order in which it is taken. -/
def argument (hasAlias : Bool) : Parse (Option Expr) := do
  if let some (parameters, arrow) ← parameters? then
    return some (.binary arrow parameters (← required (assignment d inner)))
  let e ← if ← word? "DISTINCT" then do
      pure (some (distinctValues d (← listed (disjunction d inner))))
    else do
      let _ ← word? "ALL"
      match ← query d inner with
      | some q => pure (some q)
      | none => match ← assignment d inner with
        | some e => if hasAlias then pure (some (← named inner e)) else pure (some e)
        | none => pure none
  match e, ← order? d inner with
  | some e, some order => return some (.followed e order)
  | none, some _ => failure
  | e, none => return e

/-- One end of the rows that a window function sees. -/
def frameEnd : Parse Expr := do
  let value ← if ← word? "UNBOUNDED" then pure (Expr.verbatim "UNBOUNDED")
    else if ← words? ["CURRENT", "ROW"] then pure (.verbatim "CURRENT ROW")
    else required (bitwise d inner)
  match ← operator? [("PRECEDING", "PRECEDING"), ("FOLLOWING", "FOLLOWING")] with
  | some side => return .followed value (.verbatim side)
  | none => return value

/-- The rows that a window function sees, if they are restricted. -/
def frame? : Parse (Option Expr) := do
  match ← operator? [("ROWS", "ROWS"), ("RANGE", "RANGE")] with
  | none => return none
  | some kind =>
    if ← word? "BETWEEN" then
      let first ← frameEnd d inner
      expectWord "AND"
      return some (.prefixed (kind ++ " BETWEEN") [.binary "AND" first (← frameEnd d inner)])
    else
      let first ← frameEnd d inner
      return some (.prefixed (kind ++ " BETWEEN") [.binary "AND" first (.verbatim "CURRENT ROW")])

/-- The window of a function in parentheses, of which the first has been taken. -/
def window : Parse Expr := do
  let name ← name? ["RANGE", "ROWS"]
  let groups ← if ← word? "PARTITION BY" then
      pure (some (Expr.prefixed "PARTITION BY" (← listed (assignment d inner))))
    else pure none
  let order ← order? d inner
  let frame ← frame? d inner
  expect ")"
  match [name.map .ident, groups, order, frame].filterMap id with
  | [] => return .tuple []
  | e :: rest => return .group (rest.foldl .followed e)

/-- A call with what may follow it: the order within a group, the rows that count, the window. -/
def completed (e : Expr) : Parse Expr := do
  let e ← if ← words? ["WITHIN", "GROUP"] then do
      expect "("
      let order ← required (order? d inner)
      expect ")"
      pure (Expr.followed e (.prefixed "WITHIN GROUP" [.group order]))
    else pure e
  -- `FILTER` is a keyword only before a parenthesis.
  let e ← match ← get with
    | .word s :: .sign "(" :: rest =>
      if upper s == "FILTER" then do
        set rest
        let _ ← word? "WHERE"
        let condition ← required (assignment d inner)
        expect ")"
        pure (Expr.followed e (.call "FILTER" [.prefixed "WHERE" [condition]]))
      else pure e
    | _ => pure e
  if ← word? "OVER" then
    if ← sign? "(" then return .followed e (.prefixed "OVER" [← window d inner])
    else match ← name? [] with
      | some i => return .followed e (.prefixed "OVER" [.ident i])
      | none => failure
  else return e

/-- A change of type after its opening parenthesis. -/
def conversion (name : String) : Parse Expr := do
  let e ← required (assignment d inner)
  expectWord "AS"
  let type ← type d
  expect ")"
  return .call name [.binary "AS" e (.verbatim type)]

/-- A change of type that names the type as an argument, after its opening parenthesis. -/
def conversionTo (name : String) : Parse Expr := do
  let e ← required (bitwise d inner)
  expect ","
  let type ← type d
  expect ")"
  return .call name [.binary "AS" e (.verbatim type)]

/-- A part of a moment after its opening parenthesis. -/
def extraction : Parse Expr := do
  let unit ← match ← next with
    | some (.word s) | some (.string s) => pure (upper s)
    | _ => failure
  skip
  if !(← word? "FROM") then expect ","
  let e ← required (bitwise d inner)
  expect ")"
  return .call "EXTRACT" [.binary "FROM" (.verbatim unit) e]

/-- A call after its opening parenthesis. In ClickHouse parameters may stand before the
arguments. -/
def call (name : Ident) : Parse Expr := do
  match upper name.name, d with
  | "CAST", _ => completed d inner (← conversion d inner "CAST")
  | "TRY_CAST", _ | "SAFE_CAST", _ => completed d inner (← conversion d inner "TRY_CAST")
  | "EXTRACT", _ => completed d inner (← extraction d inner)
  | "CONVERT", .base | "CONVERT", .firebird => completed d inner (← conversionTo d inner "CAST")
  | "TRY_CONVERT", .base | "TRY_CONVERT", .firebird =>
    completed d inner (← conversionTo d inner "TRY_CAST")
  | key, _ =>
    let items ← enclosed (argument d inner (!Function.isKnown key))
    match Function.call? d name items with
    | none => failure
    | some e =>
      if d = .clickhouse then
        if ← sign? "(" then
          return .applied name.name items (← enclosed (argument d inner false))
      completed d inner e

/-! ## Literals and keywords -/

def strings : Parse Expr := do
  let texts := (← get).takeWhile fun
    | .string _ => true
    | _ => false
  modify (·.drop texts.length)
  match texts.filterMap text? with
  | [e] => return e
  | es => return .call "CONCAT" es
where
  /-- The expression of a string. -/
  text? : Token → Option Expr
    | .string s => some (.string s)
    | _ => none

def typedLiteral? : Parse (Option Expr) := do
  let tokens ← get
  match tokens with
  | .word s :: _ =>
    if (type? (upper s)).isNone then return none
    else match ← tried (type d) with
      | none => return none
      | some type => match ← next with
        | some (.number n) =>
          skip
          return some (converted type (.number n))
        | some (.string _) => return some (converted type (← strings))
        | _ =>
          -- The type was a name after all.
          set tokens
          return none
  | _ => return none
where
  /-- A literal of a type; a document is parsed. -/
  converted (type : String) (e : Expr) : Expr :=
    if type == "JSON" then .call "PARSE_JSON" [e]
    else .call "CAST" [.binary "AS" e (.verbatim type)]

def choice : Parse Expr := do
  let operand ← disjunction d inner
  let branches ← iterate (fun branches => do
    if ← word? "WHEN" then
      let condition ← required (disjunction d inner)
      let _ ← word? "THEN"
      let e ← required (disjunction d inner)
      return some (branches ++ [(condition, e)])
    else return none) []
  let otherwise ← if ← word? "ELSE" then disjunction d inner else pure none
  expectWord "END"
  if branches.isEmpty then failure else return .choice operand branches otherwise

/-- The amount and the unit of an interval that is one text, such as `1 day`. -/
def cutAmount? (s : String) : Option (String × String) :=
  let chars := stripChars s.toList
  let (sign, rest) := if chars.head? = some '-' then (['-'], chars.drop 1) else ([], chars)
  let digits := rest.takeWhile Char.isDigit
  let fraction := match rest.dropWhile Char.isDigit with
    | '.' :: after =>
      let decimals := after.takeWhile Char.isDigit
      if decimals.isEmpty then [] else '.' :: decimals
    | _ => []
  let unit := (rest.drop (digits.length + fraction.length)).dropWhile isBlank
  if digits.isEmpty || unit.isEmpty || !unit.all Char.isAlpha then none
  else some (String.ofList (sign ++ digits ++ fraction), upper (String.ofList unit))

/-- The unit behind the amount of an interval. -/
def unit? : Parse (Option String) := do
  match ← next with
  | some (.word s) =>
    if ["AS", "SELECT", "NOT"].contains (upper s) then return none
    else
      skip
      return some (upper s)
  | some (.number s) | some (.string s) | some (.quoted s) =>
    skip
    return some (upper s)
  | _ => return none

def intervalOf (amount : Expr) (unit : Option String) : Expr :=
  match d, amount, unit with
  | .postgres, .string s, some unit => .unary "INTERVAL " (.string (s ++ " " ++ unit))
  | _, _, some unit => .followed (.unary "INTERVAL " amount) (.verbatim unit)
  | _, _, none => .unary "INTERVAL " amount

/-- An interval after its keyword; none where the keyword is a name: nothing follows, or a name
that is not the amount of a unit. -/
def interval? : Parse (Option Expr) := do
  let amount ← match ← next with
    | some (.string _) => pure (some (← strings))
    | _ => term inner
  match amount, ← next with
  | none, _ => return none
  | some (.column [.ident ⟨name, false⟩]), some t =>
    let isUnitWord := match t with
      | .word s => isUnit (upper s)
      | _ => false
    if isUnitWord then
      return some (intervalOf d (.column [.ident ⟨name, false⟩]) (← unit?))
    else return none
  | some (.number n), _ => return some (intervalOf d (.string n) (← unit?))
  | some (.string s), _ => match cutAmount? s with
    | some (amount, unit) => return some (intervalOf d (.string amount) (some unit))
    | none => return some (intervalOf d (.string s) (← unit?))
  | some e, _ =>
    return some (intervalOf d (if e.isIntervalValue then e else .group e) (← unit?))

/-- What follows an opening parenthesis: a query, a list or one expression. A comma at the end
makes a list. -/
def parenthesized : Parse Expr := do
  match ← query d inner with
  | some q =>
    expect ")"
    return .group q
  | none =>
    let places ← places (aliased d inner)
    -- A query in parentheses of its own goes on with clauses behind them.
    let places ← match places with
      | [some e] =>
        if e.isQuery then pure [some (← continued d inner (simpleQuery d inner) e)] else pure places
      | places => pure places
    expect ")"
    let items := places.filterMap id
    let endsOpen := 1 < places.length && places.getLast?.any Option.isNone
    match items with
    | [e] => return if endsOpen then .tuple [e] else .group e
    | items => return .tuple items

def plainColumn (s : String) : Expr := .column [.ident ⟨s, false⟩]

/-- What a word begins, if it begins an operand. -/
def word (s : String) (rest : List Token) : Parse (Option Expr) := do
  let key := upper s
  let opens := rest.head? = some (.sign "(")
  match key with
  | "NULL" => literal .null
  | "TRUE" => literal (.boolean true)
  | "FALSE" => literal (.boolean false)
  | "CASE" =>
    skip
    -- Before a point the word names a table.
    if (← next) = some (.sign ".") then return some (plainColumn s)
    else return some (← choice d inner)
  | "ANY" =>
    skip
    let e ← required (bitwise d inner)
    return some (.unary (if e.isGroup && !e.isQuery then "ANY" else "ANY ") e)
  | "INTERVAL" =>
    skip
    let tokens ← get
    match ← interval? d inner with
    | some e => return some e
    | none =>
      set tokens
      return some (plainColumn s)
  | "VALUES" => if opens then return none else literal (plainColumn s)
  | key =>
    match ← typedLiteral? d, constant? d key with
    | some e, _ => return some e
    | none, some constant =>
      skip
      if ← sign? "(" then
        match ← enclosed (argument d inner false) with
        | [] => return some (.verbatim constant)
        | items => return some (.call key items)
      else return some (.verbatim constant)
    | none, none =>
      if opens && namesFunction key then
        set (rest.drop 1)
        return some (← call d inner ⟨s, false⟩)
      else if namesColumn key then literal (plainColumn s)
      else return none
where
  /-- An operand of one token. -/
  literal (e : Expr) : Parse (Option Expr) := do
    skip
    return some e

/-- A literal, a name, a call or something in parentheses, if there is one. -/
def primary : Parse (Option Expr) := do
  match ← get with
  | .number n :: rest =>
    set rest
    return some (.number n)
  | .sign "." :: .number n :: rest =>
    set rest
    return some (.number ("0." ++ n))
  | .string _ :: _ => return some (← strings)
  | .national s :: rest =>
    set rest
    return some (.national s)
  | .sign "*" :: rest =>
    set rest
    return some .star
  | .sign "(" :: rest =>
    set rest
    return some (← parenthesized d inner)
  | .sign "[" :: rest =>
    set rest
    let items ← listed (aliased d inner)
    expect "]"
    return some (.call "ARRAY" items)
  | .quoted s :: .sign "(" :: rest =>
    set rest
    return some (← call d inner ⟨s, true⟩)
  | .quoted s :: rest =>
    set rest
    return some (.column [.ident ⟨s, true⟩])
  | .word s :: rest => word d inner s rest
  | .sign "@" :: .sign "(" :: rest =>
    set rest
    return some (.unary "@" (← parenthesized d inner))
  | _ => mark?

/-! ## What follows an operand -/

/-- A member of something: a call, a literal or any name. -/
def member : Parse Expr := do
  match ← get with
  | .word s :: .sign "(" :: rest =>
    if upper s == "SELECT" then failure
    else
      set rest
      return .call s (← enclosed (argument d inner true))
  | .quoted s :: .sign "(" :: rest =>
    set rest
    return .call (d.quote s) (← enclosed (argument d inner true))
  | .word s :: rest =>
    set rest
    match upper s, constant? d (upper s) with
    | "NULL", _ => return .null
    | "TRUE", _ => return .boolean true
    | "FALSE", _ => return .boolean false
    | "SELECT", _ | "NOT", _ | "CASE", _ | "ANY", _ => failure
    | _, some constant => return .verbatim constant
    | _, none => return .ident ⟨s, false⟩
  | .quoted s :: rest =>
    set rest
    return .ident ⟨s, true⟩
  | .number _ :: _ | .string _ :: _ | .national _ :: _ | .sign "*" :: _ | .sign "(" :: _ =>
    required (primary d inner)
  | _ => required mark?

/-- The access to a member: up to four names form a column, everything else is a field. -/
def access (e part : Expr) : Expr :=
  match e, part with
  | e, .call .. | e, .verbatim _ => .field e part
  | .column parts, part => if parts.length < 4 then .column (parts ++ [part]) else .field e part
  | e, part => .field e part

def path : Expr → Expr
  | .number n => .string ("$[" ++ n ++ "]")
  | .string s => if s.toList.all inWord && !s.isEmpty then .string ("$." ++ s) else .string s
  | e => e

/-- The operators that take something out of a document, as calls on a key or on its path. -/
def documentCalls : List (String × String) :=
  [("->", "JSON_EXTRACT"), ("->>", "JSON_EXTRACT_SCALAR"), ("#>", "JSONB_EXTRACT"),
   ("#>>", "JSONB_EXTRACT_SCALAR"), ("?", "JSONB_CONTAINS")]

/-- What an operator takes out of a document. -/
def taken (sign : String) (e key : Expr) : Expr :=
  match d, documentCalls.lookup sign with
  | .postgres, _ | _, none => .binary sign e key
  | _, some name => .call name [e, if sign == "->" || sign == "->>" then path key else key]

/-- An operand with one more access, index or type annotation behind it, if one follows. -/
def suffix? (e : Expr) : Parse (Option Expr) := do
  if ← sign? "." then return some (access e (← member d inner))
  if ← sign? "[" then
    let indices ← listed (aliased d inner)
    expect "]"
    match e with
    | .column [.ident ⟨name, false⟩] =>
      if upper name == "ARRAY" then return some (.call "ARRAY" indices)
      else return some (.element e indices)
    | _ => return some (.element e indices)
  if ← sign? "::" then return some (.call "CAST" [.binary "AS" e (.verbatim (← type d))])
  match ← operator? (documentCalls.map fun (sign, _) => (sign, sign)) with
  | some sign => return some (taken d sign e (← required (inner .operand)))
  | none => return none

/-- A sign before an operand, or an operand with what follows it. A plus sign vanishes. -/
def operand : Parse (Option Expr) := do
  match ← next with
  | some (.sign "-") =>
    skip
    return some (.unary "-" (← required (inner .operand)))
  | some (.sign "~") =>
    skip
    return some (.unary "~" (← required (inner .operand)))
  | some (.sign "+") =>
    skip
    inner .operand
  | some t =>
    if t == .sign "!" || t.isWord "NOT" then
      skip
      return some (negated (← required (equality d inner)))
    else match ← primary d inner with
      | some e => return some (← iterate (suffix? d inner) e)
      | none => return none
  | none => return none

/-- The parts inside an expression down to a depth. -/
def part (d : Dialect) : Nat → Part → Parse (Option Expr)
  | 0, _ => failure
  | depth + 1, .operand => operand d (part d depth)
  | depth + 1, .item => item d (part d depth)

end Datacube.Sql.Parse
