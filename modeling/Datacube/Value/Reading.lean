import Datacube.Error

/-!
# Reading documents

How a catalog document is taken apart: a value as a text, as a list of items, as an object, and the
fields of an object. A value of the wrong shape is a fault.
-/

namespace Datacube.Value

/-- The items of a list; a text is a list of its characters and an object one of its keys. -/
def toItems : Value → Outcome (List Value)
  | .list items => .ok items
  | .text s => .ok (s.toList.map fun c => .text c.toString)
  | .object fields => .ok (fields.map (·.1))
  | _ => fail .wrongType

def toPair (v : Value) : Outcome (Value × Value) := do
  match ← v.toItems with
  | [key, v] => if key.isKey then return (key, v) else fail .wrongType
  | _ => fail .badValue

/-- An object as it is, or a list of pairs as an object. -/
def toFields : Value → Outcome (Entries Value Value)
  | .object fields => .ok fields
  | v => do
    let pairs ← (← v.toItems).foldlM (fun acc v => do return acc ++ [← v.toPair]) []
    return .ofPairs pairs

def onlyText : Value → Outcome String
  | .text s => .ok s
  | _ => fail .noSuchMember

def objectFields : Value → Outcome (Entries Value Value)
  | .object fields => .ok fields
  | _ => fail .noSuchMember

/-- The value under a name that must be there. -/
def required (fields : Entries Value Value) (name : String) : Outcome Value :=
  match named? fields name with
  | some v => .ok v
  | none => fail .missingKey

/-- The value under a name, or null. -/
def optional (fields : Entries Value Value) (name : String) : Value :=
  (named? fields name).getD .null

end Datacube.Value
