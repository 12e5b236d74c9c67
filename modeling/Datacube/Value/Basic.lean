import Datacube.Entries
import Datacube.Number.Magnitude

/-!
# Values

What a cell of a result row, a filter operand or a catalog entry can hold. There is one equality,
one order and one notion of truth for all of them: numbers of every kind and truth values compare
by their exact value, so `true`, `1` and `1.0` are the same key.
-/

namespace Datacube

/-- A value of a row, a filter or a catalog. The mark of a value that is no number tells apart those
of different cells: such a value equals itself wherever it is copied to, and no other one. -/
inductive Value where
  | null
  | bool (b : Bool)
  | int (n : Int)
  | float (x : Float)
  | nan (mark : Nat)
  | decimal (d : Decimal)
  | text (s : String)
  | list (items : List Value)
  | object (fields : List (Value × Value))
  deriving Inhabited

/-- The result of comparing two values that have an order. A decimal that is no number makes the
comparison invalid, unless both values are floats. -/
inductive Comparison where
  | less
  | same
  | greater
  | unordered
  | invalid
  deriving DecidableEq

namespace Value
open Number

/-- The comparison of two magnitudes. `decimals` tells whether a decimal takes part. -/
def compareMagnitudes (decimals : Bool) : Magnitude → Magnitude → Comparison
  | .invalid, _ | _, .invalid => .invalid
  | .nan, _ | _, .nan => if decimals then .invalid else .unordered
  | .infinite a, .infinite b => if a = b then .same else if a then .less else .greater
  | .infinite a, .finite _ => if a then .less else .greater
  | .finite _, .infinite b => if b then .greater else .less
  | .finite a, .finite b => match a.order b with
    | .lt => .less
    | .eq => .same
    | .gt => .greater

/-- The number a value stands for; truth values count as one and zero. -/
def magnitude? : Value → Option Magnitude
  | .bool b => some (.finite (.ofInt (if b then 1 else 0)))
  | .int n => some (.finite (.ofInt n))
  | .float x => some (.ofFloat x)
  | .nan _ => some .nan
  | .decimal d => some (.ofDecimal d)
  | _ => none

def isDecimal : Value → Bool
  | .decimal _ => true
  | _ => false

mutual

/-- Whether two values are equal. Objects are equal when they hold equal values under the same
keys. -/
def same : Value → Value → Bool
  | .null, .null => true
  | .text a, .text b => a == b
  | .list a, .list b => sameItems a b
  | .object a, .object b => a.length == b.length && sameFields a b
  | .nan a, .nan b => a == b
  | .decimal (.nan _ _ _ a), .decimal (.nan _ _ _ b) => a == b
  | a, b => match a.magnitude?, b.magnitude? with
    | some x, some y => compareMagnitudes false x y == .same
    | _, _ => false

/-- Whether two lists hold equal values at every position. -/
def sameItems : List Value → List Value → Bool
  | [], [] => true
  | a :: as, b :: bs => same a b && sameItems as bs
  | _, _ => false

/-- Whether every field of the first object has an equal value in the second. -/
def sameFields : List (Value × Value) → List (Value × Value) → Bool
  | [], _ => true
  | (key, a) :: rest, fields =>
    (match fields.find? fun f => same key f.1 with
      | some f => same a f.2
      | none => false) && sameFields rest fields

end

instance : BEq Value := ⟨same⟩

mutual

/-- The order of two values, when they have one: numbers by size, texts by code points, lists by
their first difference. -/
def compare? : Value → Value → Option Comparison
  | .text a, .text b => some (if a = b then .same else if a < b then .less else .greater)
  | .list a, .list b => compareItems? a b
  | a, b => match a.magnitude?, b.magnitude? with
    | some x, some y => some (compareMagnitudes (a.isDecimal || b.isDecimal) x y)
    | _, _ => none

/-- The order of two lists by their first difference, then by length. -/
def compareItems? : List Value → List Value → Option Comparison
  | [], [] => some .same
  | [], _ :: _ => some .less
  | _ :: _, [] => some .greater
  | a :: as, b :: bs => if same a b then compareItems? as bs else compare? a b

end

/-- Whether the value is a signaling decimal, which takes part in no calculation. -/
def isSignaling : Value → Bool
  | .decimal (.nan _ signaling _ _) => signaling
  | _ => false

/-- Whether the value can be a key; lists, objects and signaling decimals cannot. -/
def isKey : Value → Bool
  | .list _ | .object _ => false
  | v => !v.isSignaling

/-- Whether the value counts as present: null, false, zero and everything empty do not. -/
def isTrue : Value → Bool
  | .null => false
  | .bool b => b
  | .int n => n != 0
  | .float x => !(x == 0.0)
  | .nan _ => true
  | .decimal d => d.isNonzero
  | .text s => !s.isEmpty
  | .list items => !items.isEmpty
  | .object fields => !fields.isEmpty

def isNull : Value → Bool
  | .null => true
  | _ => false

def isText (s : String) : Value → Bool
  | .text t => s == t
  | _ => false

/-- A text, or null for none. -/
def ofText? : Option String → Value
  | some s => .text s
  | none => .null

def texts (items : List String) : Value := .list (items.map .text)

/-- An object whose keys are texts. -/
def record (fields : List (String × Value)) : Value :=
  .object (fields.map fun f => (.text f.1, f.2))

def named? (fields : List (Value × Value)) (name : String) : Option Value :=
  (fields.find? fun f => f.1.isText name).map (·.2)

def field? (name : String) : Value → Option Value
  | .object fields => named? fields name
  | _ => none

/-- A value, or another one where it counts as absent. -/
def orElse (v other : Value) : Value := if v.isTrue then v else other

instance : Coe String Value := ⟨.text⟩

end Value

/-- A result row: columns with their values. -/
abbrev Row := Entries Value Value

/-- The value of a column; null when the row lacks it. -/
def Row.cell (row : Row) (column : Value) : Value := (Entries.get? row column).getD .null

end Datacube
