import Datacube.Digest
import Datacube.Metric.Formula

/-!
# Computed metrics

A computed metric is a formula over other metrics of the same request, evaluated on every result
row and rounded to a number of decimals. Without an alias it is named by the digest of its
expression.
-/

namespace Datacube
open Text

/-- A metric derived from other metrics. -/
structure Computed where
  expression : String
  formula : Formula
  declared : List Value
  explicitAlias : Value
  explicitLabel : Value
  table : Value
  decimals : Value
  percentage : Bool
  currency : Value

namespace Computed

/-- The text that stands for the details of a syntax error. -/
def syntaxReason : String := "<parse error>"

/-- Evaluates a formula; what is no formula is reported with the whole expression. -/
def run (expression : String) (formula : Formula) (read : String → Outcome (Option Float)) :
    Outcome (Option Float) :=
  match formula.evaluate read with
  | .ok x => .ok x
  | .error (.inl e) => .error e
  | .error (.inr reason) => refuse (.invalidExpression expression reason)

/-- Reads an expression. It is evaluated once without metrics, which reports every part that is no
formula. -/
def ofText (expression : String) : Outcome Computed :=
  if (strip expression).isEmpty then
    refuse (.invalidExpression expression "expression is empty")
  else match Sql.Expr.parse .base expression with
    | .error _ => refuse (.invalidExpression expression syntaxReason)
    | .ok e => do
      let formula := Formula.ofExpr e
      let _ ← run expression formula fun _ => .ok none
      return ⟨expression, formula, [], .null, .null, .null, .int 2, false, .null⟩

/-- Reads an expression, which must be a text; what counts as absent is an empty one. -/
def make : Value → Outcome Computed
  | .text expression => ofText expression
  | v =>
    if v.isTrue then fail .noSuchMember
    else refuse (.invalidExpression v.toText "expression is empty")

/-- The names of a list followed by those of another that are not yet there, each once. -/
def addMissing {α : Type} [BEq α] (known names : List α) : List α :=
  names.foldl (fun acc name => if acc.contains name then acc else acc ++ [name]) known

/-- Declares dependencies; repeated ones count once. -/
def dependsOn (c : Computed) (names : List Value) : Computed :=
  { c with declared := addMissing c.declared names }

/-- The name of the metric without an alias. -/
def key (c : Computed) : String := "computed_" ++ Digest.ofText c.expression

def aliasName (c : Computed) : Value := c.explicitAlias.orElse c.key

def label (c : Computed) : Value := c.explicitLabel.orElse c.aliasName

/-- The metrics that the formula reads, each once. -/
def referenced (c : Computed) : List String := addMissing [] c.formula.metrics

/-- Declared dependencies, then the other metrics that the formula reads. -/
def dependencies (c : Computed) : List Value := addMissing c.declared (c.referenced.map .text)

def rounded (x : Float) : Value → Outcome Float
  | .null => .ok x
  | .int n => match Number.roundTo? x n with
    | some y => .ok y
    | none => fail .overflow
  | .bool b => match Number.roundTo? x (if b then 1 else 0) with
    | some y => .ok y
    | none => fail .overflow
  | _ => fail .wrongType

/-- The value of the metric for given values of others. -/
def evaluate (c : Computed) (read : String → Outcome (Option Float)) : Outcome Value := do
  match ← run c.expression c.formula read with
  | none => return .null
  | some x => return .float (← rounded x c.decimals)

def onRow (c : Computed) (row : Row) : Outcome Value :=
  c.evaluate fun name => (row.cell name).toNumber

def format (c : Computed) : Value :=
  let precision := if c.decimals.isNull then Value.int 2 else c.decimals
  if c.currency.isTrue then
    .record [("formatter", "currency"), ("currency", c.currency), ("precision", precision)]
  else if c.percentage then .record [("formatter", "percentage"), ("precision", precision)]
  else if c.decimals.isNull then .record []
  else .record [("formatter", "number"), ("precision", c.decimals)]

def document (c : Computed) : Value :=
  .record [("kind", "computed"), ("name", .text c.key), ("alias", c.aliasName),
    ("label", c.label), ("expression", .text c.expression), ("computed", .bool true),
    ("dependencies", .list c.dependencies), ("table", c.table), ("format", c.format)]

def display (c : Computed) : String :=
  "Computed(" ++ quotedText c.expression ++ ", alias=" ++ c.aliasName.quoted ++ ")"

end Computed
end Datacube
