import Datacube.Sql.Operand

/-!
# Statements

`Expr.parse` reads a text as one expression or query. Several statements with semicolons between
them form a block. Statements that do something else are read as far as their text has a canonical
form; others are kept as they are written, behind their first word.
-/

namespace Datacube.Sql
open Text

/-- Why a text is no expression. -/
inductive SyntaxError where
  | unclosedQuote
  | malformed
  deriving DecidableEq

namespace Parse

variable (d : Dialect) (inner : Part → Parse (Option Expr))

/-! ## Expressions and queries -/

/-- A query or an expression with an optional alias. -/
def expression : Parse Expr := do
  match ← query d inner with
  | some q => return q
  | none =>
    let e ← required (aliased d inner)
    if e.isQuery then continued d inner (simpleQuery d inner) e else return e

/-! ## Commands -/

def keptWords : List String :=
  ["ALTER", "COMMENT", "CREATE", "DROP", "GRANT", "LOAD", "REVOKE", "SET"]

/-- Statements whose first word is written in upper case before the text behind it. -/
def announcedWords : List String :=
  ["CALL", "EXECUTE", "EXPLAIN", "FETCH", "OPTIMIZE", "PREPARE", "RENAME", "SHOW", "VACUUM"]

def loneWords : List String := ["BEGIN", "COMMIT", "ROLLBACK"]

/-- The words that begin a statement and are no names at its beginning. -/
def statementWords : List String :=
  loneWords ++ ["ANALYZE", "CACHE", "COPY", "DELETE", "DESC", "DESCRIBE", "INSERT", "KILL", "MERGE",
    "PIVOT", "PRAGMA", "TRUNCATE", "UNCACHE", "UNPIVOT", "UPDATE", "USE"]

def tableName : Parse Expr := do
  let first ← required (name? [])
  let parts ← iterate (fun parts => do
    if ← sign? "." then return some (parts ++ [Expr.ident (← required (name? []))])
    else return none) [Expr.ident first]
  return .column parts

/-- The condition of a statement, if one follows. -/
def restricted (e : Expr) : Parse Expr := do
  if ← word? "WHERE" then
    return .followed e (.prefixed "WHERE" [← required (assignment d inner)])
  else return e

def schemaParts : List String :=
  ["COLUMN", "DATABASE", "FUNCTION", "INDEX", "PROCEDURE", "SCHEMA", "SEQUENCE", "TABLE", "VIEW"]

/-- A part of a schema that is taken away. -/
def removal : Parse Expr := do
  let kind ← required (operator? (schemaParts.map fun s => (s, s)))
  let condition := if ← words? ["IF", "EXISTS"] then " IF EXISTS" else ""
  let removed := Expr.prefixed ("DROP " ++ kind ++ condition) [← tableName]
  if ← word? "CASCADE" then return .followed removed (.verbatim "CASCADE") else return removed

def insertion : Parse Expr := do
  expectWord "INTO"
  let table ← tableName
  let columns ← if ← sign? "(" then enclosed (name? []) else pure []
  let target := if columns.isEmpty then table
    else .followed table (.tuple (columns.map .ident))
  return .followed (.prefixed "INSERT INTO" [target]) (← required (query d inner))

/-- A statement after its first word. -/
def command (key : String) : Parse Expr := do
  match key with
  | "ANALYZE" =>
    match ← name? [] with
    | some i => return .prefixed "ANALYZE" [.ident i]
    | none => return .verbatim "ANALYZE"
  | "DELETE" =>
    expectWord "FROM"
    restricted d inner (.prefixed "DELETE FROM" [← required (table inner)])
  | "DESC" | "DESCRIBE" => return .prefixed "DESCRIBE" [← tableName]
  | "DROP" => removal
  | "INSERT" => insertion d inner
  | "KILL" => return .prefixed key [← required (primary d inner)]
  | "PRAGMA" => return .prefixed key [← required (aliased d inner)]
  | "TRUNCATE" =>
    let _ ← word? "TABLE"
    return .prefixed "TRUNCATE TABLE" (← listed do return some (← tableName))
  | "UPDATE" =>
    let table ← withAlias inner ("SET" :: joinWords) (← tableName)
    expectWord "SET"
    let changes ← listed (equality d inner)
    restricted d inner (.followed (.prefixed "UPDATE" [table]) (.prefixed "SET" changes))
  | "USE" => return .prefixed key [← tableName]
  | key => if loneWords.contains key then return .verbatim key else failure

/-! ## Whole texts -/

def whole (p : Parse Expr) (tokens : List Token) : Option Expr :=
  match p tokens with
  | some (e, []) => some e
  | _ => none

def behindWord (word : String) (rest : List Lexeme) : Expr :=
  .verbatim (strip (word ++ " " ++ strip (String.join (rest.map (·.written)))))

def statement (lexemes : List Lexeme) : Option Expr :=
  let tokens := lexemes.map (·.token)
  -- At most two parts begin at one token, which bounds the depth.
  let inner := part d (2 * tokens.length + 2)
  match lexemes with
  | ⟨.word s, _⟩ :: rest =>
    let key := upper s
    let opens := rest.head?.any (·.token = .sign "(")
    let removes := key == "DROP" && rest.head?.any fun l => schemaParts.any l.token.isWord
    if removes then whole (command d inner key) (rest.map (·.token))
    else if keptWords.contains key || (key == "IF" && !opens) then some (behindWord s rest)
    else if announcedWords.contains key then some (behindWord key rest)
    else if statementWords.contains key && !(key == "TRUNCATE" && opens) then
      whole (command d inner key) (rest.map (·.token))
    else whole (expression d inner) tokens
  | _ => whole (expression d inner) tokens

def statements (lexemes : List Lexeme) : List (List Lexeme) :=
  lexemes.foldr (fun l chunks => match l.token, chunks with
    | .sign ";", chunks => [] :: chunks
    | _, first :: rest => (l :: first) :: rest
    | _, [] => [[l]]) [[]]

/-- The lexemes without a semicolon at their end. -/
def unfinished (lexemes : List Lexeme) : List Lexeme :=
  if lexemes.getLast?.any (·.token = .sign ";") then lexemes.dropLast else lexemes

end Parse

/-- Reads a text as an expression. Several statements form a block, of which empty ones are left
out; a text without any is malformed. -/
def Expr.parse (d : Dialect) (s : String) : Except SyntaxError Expr :=
  match Lexeme.scan d s with
  | none => .error .unclosedQuote
  | some lexemes =>
    let chunks := Parse.statements (Parse.unfinished lexemes)
    match (chunks.filter (!·.isEmpty)).mapM (Parse.statement d), chunks with
    | some [e], [_] => .ok e
    | some (e :: es), _ => .ok (.block (e :: es))
    | _, _ => .error .malformed

/-- Reads the alias of a table: a name, with names for its columns in parentheses. -/
def TableAlias.parse (s : String) : Except SyntaxError TableAlias :=
  match Lexeme.scan .base s with
  | none => .error .unclosedQuote
  | some lexemes => match Parse.tableAlias (lexemes.map (·.token)) with
    | some (some a, []) => .ok a
    | _ => .error .malformed

end Datacube.Sql
