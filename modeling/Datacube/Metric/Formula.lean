import Datacube.Sql.Statement
import Datacube.Value.Number

/-!
# Formulas of computed metrics

A formula combines the metrics of a result row by arithmetic, `NULLIF`, `COALESCE` and `ABS`. Null
propagates through arithmetic, and a division by zero is null. A part of an expression that is no
formula stays in the tree as `refused` and refuses every evaluation that reaches it; evaluation
reaches every part, whatever the row.
-/

namespace Datacube
open Text

/-- The arithmetic operations. -/
inductive Operation where
  | add
  | subtract
  | multiply
  | divide
  | modulo
  deriving DecidableEq, Repr

/-- A formula over the metrics of a row. -/
inductive Formula where
  | null
  | number (digits : String)
  | metric (name : String)
  | group (e : Formula)
  | negate (e : Formula)
  | combine (op : Operation) (left right : Formula)
  | nullIf (e other : Formula)
  | coalesce (candidates : List Formula)
  | absolute (e : Formula)
  | refused (reason : String)

namespace Operation
open Number

def ofSign? : String → Option Operation
  | "+" => some add
  | "-" => some subtract
  | "*" => some multiply
  | "/" => some divide
  | "%" => some modulo
  | _ => none

/-- The result of an operation; none where zero divides. -/
def apply (op : Operation) (x y : Float) : Option Float :=
  match op with
  | add => some (x + y)
  | subtract => some (x - y)
  | multiply => some (x * y)
  | divide => if y == 0.0 then none else some (x / y)
  | modulo => if y == 0.0 then none else some (remainder x y)

end Operation

namespace Formula
open Sql

mutual

def ofExpr (e : Expr) : Formula :=
  match e with
  | .null => null
  | .number digits => number digits
  | .string _ => refused ("string literal " ++ e.render .base ++ " is not a number")
  | .column [.ident i] => metric i.name
  | .column _ => refused ("use metric aliases, not '" ++ e.render .base ++ "'")
  | .group inner =>
    if inner.isQuery then refused ("unsupported syntax '" ++ e.render .base ++ "'")
    else group (ofExpr inner)
  | .unary sign inner =>
    if sign == "-" then negate (ofExpr inner)
    else refused ("unsupported syntax '" ++ e.render .base ++ "'")
  | .binary sign left right => match Operation.ofSign? sign with
    | some op => combine op (ofExpr left) (ofExpr right)
    | none => refused ("unsupported syntax '" ++ e.render .base ++ "'")
  | .call name arguments =>
    match name, ofExprs arguments with
    | "NULLIF", [a, b] => nullIf a b
    | "ABS", [a] => absolute a
    | "COALESCE", candidates => coalesce candidates
    | _, _ => refused ("unsupported syntax '" ++ e.render .base ++ "'")
  | e => refused ("unsupported syntax '" ++ e.render .base ++ "'")

def ofExprs : List Expr → List Formula
  | [] => []
  | e :: rest => ofExpr e :: ofExprs rest

end

/-- Whether two operands of `NULLIF` are equal. -/
def equalNumbers : Option Float → Option Float → Bool
  | some x, some y => x == y
  | none, none => true
  | _, _ => false

mutual

/-- The value of a formula for given values of its metrics, or the reason why it is none. -/
def evaluate (read : String → Outcome (Option Float)) :
    Formula → Except (Error ⊕ String) (Option Float)
  | null => .ok none
  | number digits => match Number.readFloat? digits with
    | some x => .ok (some x)
    | none => .error (.inl (.fault .badValue))
  | metric name => match read name with
    | .ok x => .ok x
    | .error e => .error (.inl e)
  | group e => evaluate read e
  | negate e => do return (← evaluate read e).map (- ·)
  | combine op left right => do
    let x ← evaluate read left
    let y ← evaluate read right
    match x, y with
    | some x, some y => return op.apply x y
    | _, _ => return none
  | nullIf e other => do
    let x ← evaluate read e
    let y ← evaluate read other
    return if equalNumbers x y then none else x
  | coalesce candidates => evaluateFirst read candidates
  | absolute e => do return (← evaluate read e).map Float.abs
  | refused reason => .error (.inr reason)

/-- The first value of a list that is not null; all of them are evaluated. -/
def evaluateFirst (read : String → Outcome (Option Float)) :
    List Formula → Except (Error ⊕ String) (Option Float)
  | [] => .ok none
  | e :: rest => do
    let x ← evaluate read e
    let y ← evaluateFirst read rest
    return x.or y

end

mutual

/-- The metrics that a formula reads, from left to right. -/
def metrics : Formula → List String
  | metric name => [name]
  | group e | negate e | absolute e => metrics e
  | combine _ left right => metrics left ++ metrics right
  | nullIf e other => metrics e ++ metrics other
  | coalesce candidates => metricsOf candidates
  | null | number _ | refused _ => []

def metricsOf : List Formula → List String
  | [] => []
  | e :: rest => metrics e ++ metricsOf rest

end

end Formula
end Datacube
