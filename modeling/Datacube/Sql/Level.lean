import Datacube.Sql.Parse

/-!
# Levels of operators

How operands and operators group: from assignments, which bind loosest, over conditions and tests
down to products. All operators associate to the left. The parsers take the ones of the parts inside
an expression as an argument; the grammar as a whole supplies itself.
-/

namespace Datacube.Sql.Parse
open Text

/-- An operation on two operands, neither of which may be absent. -/
def both (sign : String) : Option Expr → Option Expr → Parse Expr
  | some left, some right => return .binary sign left right
  | _, _ => failure

/-- Operands with the operators of one level between them. -/
def chain (table : List (String × String)) (operand : Parse (Option Expr)) :
    Parse (Option Expr) := do
  iterate (fun left => do
    match ← operator? table with
    | none => return none
    | some sign => return some (some (← both sign left (← operand)))) (← operand)

def termSigns : List (String × String) := [("+", "+"), ("-", "-"), ("COLLATE", "COLLATE")]

def factorSigns : List (String × String) := [("*", "*"), ("/", "/"), ("%", "%"), ("<->", "<->")]

/-- Whether doubled signs stand for the words of conditions. -/
def hasSignWords : Dialect → Bool
  | .mysql | .singlestore => true
  | _ => false

def bitSigns (d : Dialect) : List (String × String) :=
  [("&", "&"), ("|", "|"), ("^", "^")] ++ if hasSignWords d then [] else [("||", "||")]

/-- The operators of conditions, from the loosest level to the tightest. -/
def conditionSigns : Dialect → List (List (String × String))
  | .mysql | .singlestore =>
    [[(":=", ":=")], [("OR", "OR"), ("||", "OR")], [("AND", "AND"), ("&&", "AND"), ("XOR", "XOR")],
     ("<=>", "<=>") :: equalities, inequalities]
  | _ =>
    [[(":=", ":=")], [("OR", "OR")], [("AND", "AND")],
     ("<=>", "IS NOT DISTINCT FROM") :: equalities, inequalities]
where
  /-- The signs of equality. -/
  equalities : List (String × String) := [("=", "="), ("==", "="), ("!=", "<>"), ("<>", "<>")]
  /-- The signs of order. -/
  inequalities : List (String × String) := [(">", ">"), (">=", ">="), ("<", "<"), ("<=", "<=")]

/-- Tests by an operator between two operands. -/
def testSigns (d : Dialect) : List (String × String) :=
  [("LIKE", "LIKE"), ("~~", "LIKE"), ("ILIKE", "ILIKE"), ("~~*", "ILIKE"), ("GLOB", "GLOB"),
   ("~~~", "GLOB"), ("OVERLAPS", "OVERLAPS"), ("SIMILAR TO", "SIMILAR TO")] ++
    if hasSignWords d then [] else [("&&", "&&")]

def testCalls : List (String × String) :=
  [("RLIKE", "REGEXP_LIKE"), ("REGEXP", "REGEXP_LIKE"), ("~*", "REGEXP_ILIKE")]

/-- The parts inside an expression. -/
inductive Part where
  /-- What stands between operators. -/
  | operand
  /-- What stands in a list: a query or an expression without alias. -/
  | item

variable (d : Dialect) (inner : Part → Parse (Option Expr))

/-! ## Arithmetic -/

/-- The moment of an operand in a time zone. -/
def zoned : Parse (Option Expr) := do
  iterate (fun e => do
    if ← words? ["AT", "TIME", "ZONE"] then
      return some (some (← both "AT TIME ZONE" e (← inner .operand)))
    else return none) (← inner .operand)

/-- A product. The word for the integer quotient is a name where no operand follows. -/
def factor : Parse (Option Expr) := do
  iterate (fun left => do
    match ← operator? factorSigns with
    | some sign => return some (some (← both sign left (← inner .operand)))
    | none =>
      let tokens ← get
      if ← word? "DIV" then
        match ← inner .operand with
        | some right => return some (some (← both "DIV" left (some right)))
        | none =>
          set tokens
          return none
      else return none) (← zoned inner)

def term : Parse (Option Expr) := chain termSigns (factor inner)

/-- Two signs that mean a shift. -/
def shift? : Parse (Option String) := do
  match ← get with
  | .sign "<" :: .sign "<" :: rest =>
    set rest
    return some "<<"
  | .sign ">" :: .sign ">" :: rest =>
    set rest
    return some ">>"
  | _ => return none

/-- Operations on bits and texts. -/
def bitwise : Parse (Option Expr) := do
  iterate (fun left => do
    match ← operator? (bitSigns d) with
    | some sign => return some (some (← both sign left (← term inner)))
    | none =>
      match ← shift? with
      | some sign => return some (some (← both sign left (← term inner)))
      | none =>
        if ← sign? "??" then
          match left, ← term inner with
          | some left, some right => return some (some (.call "COALESCE" [left, right]))
          | _, _ => failure
        else return none) (← term inner)

/-! ## Tests -/

/-- What an operand is compared with by `IN`: a list, a query or a column. -/
def membership (e : Expr) : Parse Expr := do
  match ← next with
  | some (.sign "(") | some (.sign "[") =>
    let closing := if (← next) = some (.sign "(") then ")" else "]"
    skip
    let items ← listed (inner .item)
    expect closing
    match items with
    | [q] => return .binary "IN" e (if q.isQuery then .group q else .tuple [q])
    | items => return .binary "IN" e (.tuple items)
  | some (.sign _) | none => return .binary "IN" e (.tuple [])
  | _ => return .binary "IN" e ((← inner .operand).getD (.tuple []))

/-- The character that takes the next one of a pattern as it is. -/
def escaped (e : Expr) : Parse Expr := do
  if ← word? "ESCAPE" then
    match ← next with
    | some (.string s) =>
      skip
      return .binary "ESCAPE" e (.string s)
    | _ => failure
  else return e

/-- One test of an operand, if there is one. -/
def test? (e : Expr) : Parse (Option Expr) := do
  if ← word? "IN" then return some (← membership inner e)
  if ← word? "BETWEEN" then
    let low ← required (bitwise d inner)
    let _ ← word? "AND"
    let high ← required (bitwise d inner)
    return some (.binary "BETWEEN" e (.binary "AND" low high))
  if let some name ← operator? testCalls then
    return some (.call name [e, ← required (bitwise d inner)])
  match ← operator? (testSigns d) with
  | some sign => return some (← escaped (.binary sign e (← required (bitwise d inner))))
  | none => return none

def negated (e : Expr) : Expr := .unary "NOT " e

/-- A test by `IS`; the word is left where nothing follows it. -/
def identity (e : Expr) : Parse Expr := do
  let tokens ← get
  if ← word? "IS" then
    let negative ← word? "NOT"
    if ← words? ["DISTINCT", "FROM"] then
      let other ← required (bitwise d inner)
      return .binary (if negative then "IS NOT DISTINCT FROM" else "IS DISTINCT FROM") e other
    match ← bitwise d inner with
    | some what =>
      let test := Expr.binary "IS" e what
      return if negative then negated test else test
    | none =>
      set tokens
      return e
  else return e

def tests : Parse (Option Expr) := do
  match ← bitwise d inner with
  | none => return none
  | some e =>
    let negative ← take? fun t => t.isWord "NOT" || t == .sign "!"
    let tested ← match ← test? d inner e with
      | some t => pure t
      | none =>
        if ← comes ["IS"] then identity d inner e
        else
          let absent ← if ← word? "ISNULL" then pure true
            else if negative then word? "NULL" else pure false
          pure (if absent then .binary "IS" e .null else e)
    let tested := if ← word? "NOTNULL" then negated (.binary "IS" tested .null) else tested
    return some (← identity d inner (if negative then negated tested else tested))

def condition (without : Nat) : Parse (Option Expr) :=
  ((conditionSigns d).drop without).foldr chain (tests d inner)

/-- An expression without alias. -/
def assignment : Parse (Option Expr) := condition d inner 0

/-- A disjunction, which is no assignment. -/
def disjunction : Parse (Option Expr) := condition d inner 1

/-- A comparison for equality, which is the operand of a negation. -/
def equality : Parse (Option Expr) := condition d inner 3

/-! ## Aliases -/

/-- Whether a word that bounds the number of rows comes next with a number behind it. -/
def boundsRows : Parse Bool := fun tokens =>
  match tokens with
  | word :: rest =>
    if word.isWord "LIMIT" || word.isWord "OFFSET" then
      match term inner rest with
      | some (some _, _) => some (true, tokens)
      | _ => some (false, tokens)
    else some (false, tokens)
  | [] => some (false, [])

/-- An expression with its alias, if one follows: a name, a mark or, in parentheses, several names.
Before a name that could be anything else the word `AS` is needed. -/
def withAlias (excluded : List String) (e : Expr) : Parse Expr := do
  if ← boundsRows inner then return e
  let explicit ← word? "AS"
  let name := if explicit then anyName? else name? excluded
  if ← sign? "(" then
    match ← enclosed name with
    | [] => failure
    | names => return .binary "AS" e (.tuple (names.map .ident))
  if let some mark ← mark? then return .binary "AS" e mark
  match ← name with
  | some name => return .binary "AS" e (.ident name)
  | none => return e

/-- An expression with an optional alias. -/
def aliased : Parse (Option Expr) := do
  match ← assignment d inner with
  | some e => return some (← withAlias inner [] e)
  | none => return none

/-- An expression with an alias if the word for it follows. -/
def named (e : Expr) : Parse Expr := do
  if ← comes ["AS"] then withAlias inner [] e else return e

end Datacube.Sql.Parse
