import Datacube.Text.Cut
import Datacube.Value.Order
import Datacube.Value.Reading

/-!
# Filtering rows

The filters of a dimension keep rows by its value: `only` some values, all `except` some, or `where`
a comparison holds. Null passes no comparison of order.
-/

namespace Datacube
open Text

namespace Value

/-- Whether a value occurs in a collection: a list, the keys of an object, or a text that holds
another text. -/
def occursIn (v : Value) : Value → Outcome Bool
  | .list items => items.anyM v.equals
  | .object fields =>
    if v.isKey then .ok (fields.any fun f => v.same f.1) else fail .wrongType
  | .text s => match v with
    | .text phrase => .ok (indexOf? phrase.toList s.toList).isSome
    | _ => fail .wrongType
  | _ => fail .wrongType

def orderTest? : String → Option (Comparison → Bool)
  | ">" => some (· = .greater)
  | "<" => some (· = .less)
  | ">=" => some fun c => c = .greater || c = .same
  | "<=" => some fun c => c = .less || c = .same
  | _ => none

/-- Whether a comparison holds for a value. An unknown operator compares for equality. -/
def satisfies (v condition : Value) : Outcome Bool := do
  let fields ← condition.objectFields
  let operator := lower ((named? fields "operator").getD "=").toText
  let target := optional fields "value"
  if operator == "!=" || operator == "<>" then return !(← v.equals target)
  else match orderTest? operator with
    | none => v.equals target
    | some holds =>
      if v.isNull || target.isNull then return false else return holds (← v.order target)

/-- What the filters of a dimension hold under a name. Of other collections only whether they hold
the name is asked: then nothing can be read under it. -/
def filterUnder (filters : Value) (name : String) : Outcome (Option Value) := do
  match filters with
  | .object fields => return named? fields name
  | v => if ← (Value.text name).occursIn v then fail .wrongType else return none

def passes (v filters : Value) : Outcome Bool := do
  let kept ← match ← filters.filterUnder "only" with
    | some values => v.occursIn values
    | none => pure true
  if !kept then return false
  let dropped ← match ← filters.filterUnder "except" with
    | some values => v.occursIn values
    | none => pure false
  if dropped then return false
  match ← filters.filterUnder "where" with
  | some condition => v.satisfies condition
  | none => return true

end Value

namespace Row

def passes (filters : Entries Value Value) (row : Row) : Outcome Bool :=
  filters.allM fun (aliasName, f) => (row.cell aliasName).passes f

def keepWhere (test : Row → Outcome Bool) : List Row → Outcome (List Row)
  | [] => .ok []
  | row :: rest => do
    let kept ← test row
    let others ← keepWhere test rest
    return if kept then row :: others else others

/-- The rows that pass the filters of all dimensions; no filters keep every row. -/
def filterAll (filters : Value) (rows : List Row) : Outcome (List Row) := do
  if filters.isTrue && !rows.isEmpty then keepWhere (passes (← filters.objectFields)) rows
  else return rows

end Row
end Datacube
