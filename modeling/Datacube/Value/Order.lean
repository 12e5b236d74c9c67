import Datacube.Error

/-!
# Comparisons that may fail

Values of different kinds have no order, and a decimal that is no number cannot be compared.
-/

namespace Datacube.Value

/-- Whether two values are equal. A signaling decimal cannot be compared with a number. -/
def equals (a b : Value) : Outcome Bool :=
  if (a.isSignaling && b.magnitude?.isSome) || (b.isSignaling && a.magnitude?.isSome) then
    fail .invalidOperation
  else .ok (a.same b)

/-- The order of two values, which must have one. -/
def order (a b : Value) : Outcome Comparison :=
  match a.compare? b with
  | some .invalid => fail .invalidOperation
  | some c => .ok c
  | none => fail .wrongType

end Datacube.Value
