import Datacube.Error
import Datacube.Number.Remainder

/-!
# Values as numbers

Sums, extremes and formulas read a value as a float: numbers of every kind and texts in number
notation. Null, truth values and everything else are no numbers.
-/

namespace Datacube.Value
open Number

/-- The float nearest to a whole number, which must lie within the range of floats. -/
def floatOfInt (n : Int) : Outcome Float :=
  match floatOfInt? n with
  | some x => .ok x
  | none => fail .overflow

/-- The number that a value stands for, if any. -/
def toNumber : Value → Outcome (Option Float)
  | .int n => do return some (← floatOfInt n)
  | .float x => .ok (some x)
  | .nan _ => .ok (some (0.0 / 0.0))
  | .decimal d => match d.toFloat? with
    | some x => .ok (some x)
    | none => fail .badValue
  | .text s => .ok (readFloat? s)
  | _ => .ok none

def ofFloat (x : Float) : Value :=
  match wholePart? x with
  | some n => .int n
  | none => .float x

/-- A value as a whole number when it stands for one, as a float when it stands for another number,
and unchanged otherwise. -/
def normalizeNumber (v : Value) : Outcome Value := do
  match ← v.toNumber with
  | some x => return ofFloat x
  | none => return v

end Datacube.Value
