import Datacube.Sql.Keyword

/-!
# SQL expressions

The expressions that aggregate renderings, time buckets and metric formulas are made of, with their
canonical text in each dialect: identifiers in the dialect's quotes, one blank around operators.
-/

namespace Datacube.Sql
open Text

/-- An identifier, quoted or plain. -/
structure Ident where
  name : String
  quoted : Bool
  deriving DecidableEq, Repr

def Ident.render (d : Dialect) (i : Ident) : String :=
  if i.quoted || needsQuotes d i.name then d.quote i.name else i.name

/-- An expression. A column lists its qualifiers and, last, its name. The name of a call is the text
that stands before its arguments. What has a form of its own in the text but no meaning here is
built from `prefixed` and `followed`. -/
inductive Expr where
  | null
  | boolean (b : Bool)
  | number (digits : String)
  | string (s : String)
  | national (s : String)
  | star
  | verbatim (s : String)
  | ident (i : Ident)
  | column (parts : List Expr)
  | field (e part : Expr)
  | element (e : Expr) (indices : List Expr)
  | group (e : Expr)
  | tuple (items : List Expr)
  | unary (sign : String) (e : Expr)
  | binary (sign : String) (left right : Expr)
  | call (name : String) (arguments : List Expr)
  | applied (name : String) (parameters arguments : List Expr)
  | choice (operand : Option Expr) (branches : List (Expr × Expr)) (otherwise : Option Expr)
  | select (modifier : String) (columns : List Expr)
  | prefixed (keyword : String) (items : List Expr)
  | followed (e after : Expr)
  | block (statements : List Expr)

/-- The alias of a table, with names for its columns. -/
structure TableAlias where
  name : Ident
  columns : List Ident

def TableAlias.render (d : Dialect) (a : TableAlias) : String :=
  a.name.render d ++
    (if a.columns.isEmpty then "" else "(" ++ join ", " (a.columns.map (·.render d)) ++ ")")

/-- The operations between two queries. -/
def setOperations : List String := ["UNION", "UNION ALL", "EXCEPT", "EXCEPT ALL", "INTERSECT",
  "INTERSECT ALL"]

namespace Expr

/-- Whether the expression is the list of definitions before a query. -/
def isDefinitions : Expr → Bool
  | prefixed keyword _ => keyword == "WITH" || keyword == "WITH RECURSIVE"
  | _ => false

/-- Whether the expression is a query, in parentheses or not. -/
def isQuery : Expr → Bool
  | select .. => true
  | group e => e.isQuery
  | followed e after => e.isQuery || (e.isDefinitions && after.isQuery)
  | binary sign left _ => setOperations.contains sign && left.isQuery
  | _ => false

/-- Whether the expression stands in parentheses. -/
def isGroup : Expr → Bool
  | group _ => true
  | _ => false

/-- Whether the expression joins two operands by an operator. -/
def isCompound : Expr → Bool
  | binary .. => true
  | _ => false

/-- Whether the expression stands behind the keyword of an interval without parentheses. -/
def isIntervalValue : Expr → Bool
  | column .. | number .. | string .. | group .. => true
  | unary sign _ => sign == "-"
  | _ => false

/-- Texts behind a keyword, which stands alone when there are none. -/
def behind (keyword : String) (items : List String) : String :=
  if items.isEmpty then keyword else keyword ++ " " ++ join ", " items

mutual

/-- The canonical text of an expression. -/
def render (d : Dialect) : Expr → String
  | null => "NULL"
  | boolean b => if d = .sqlserver then (if b then "(1 = 1)" else "(1 = 0)")
    else if b then "TRUE" else "FALSE"
  | number digits => digits
  | string s => d.literal s
  | national s => "N" ++ d.literal s
  | star => "*"
  | verbatim s => s
  | ident i => i.render d
  | column parts => join "." (renderAll d parts)
  | field e part => render d e ++ "." ++ render d part
  | element e indices => render d e ++ "[" ++ join ", " (renderAll d indices) ++ "]"
  | group e => "(" ++ render d e ++ ")"
  | tuple items => "(" ++ join ", " (renderAll d items) ++ ")"
  | unary sign e =>
    let inner := render d e
    sign ++ (if sign == "-" && inner.toList.head? = some '-' then " " else "") ++ inner
  | binary sign left right => render d left ++ " " ++ sign ++ " " ++ render d right
  | call name arguments => name ++ "(" ++ join ", " (renderAll d arguments) ++ ")"
  | applied name parameters arguments =>
    name ++ "(" ++ join ", " (renderAll d parameters) ++ ")(" ++
      join ", " (renderAll d arguments) ++ ")"
  | choice operand branches otherwise =>
    "CASE" ++
    (match operand with
      | some e => " " ++ render d e
      | none => "") ++
    String.join (renderBranches d branches) ++
    (match otherwise with
      | some e => " ELSE " ++ render d e
      | none => "") ++ " END"
  | select modifier columns =>
    behind (if modifier.isEmpty then "SELECT" else "SELECT " ++ modifier) (renderAll d columns)
  | prefixed keyword items => behind keyword (renderAll d items)
  | followed e after => render d e ++ " " ++ render d after
  | block statements => join "; " (renderAll d statements)

def renderAll (d : Dialect) : List Expr → List String
  | [] => []
  | e :: rest => render d e :: renderAll d rest

def renderBranches (d : Dialect) : List (Expr × Expr) → List String
  | [] => []
  | (condition, e) :: rest =>
    (" WHEN " ++ render d condition ++ " THEN " ++ render d e) :: renderBranches d rest

end

end Expr
end Datacube.Sql
