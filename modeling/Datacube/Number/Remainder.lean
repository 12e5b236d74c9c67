import Datacube.Number.Reading

/-!
# The remainder of floats

`remainder x y` is the exact remainder of a division whose quotient is rounded down, so it has the
sign of the divisor.
-/

namespace Datacube.Number

/-- The float of a binary number that needs no rounding. -/
def Binary.toFloat (x : Binary) : Float :=
  let exponent := max (x.exponent + (x.mantissa.log2 : Int) - 52) (-1074)
  let mantissa := x.mantissa * Nat.pow 2 (x.exponent - exponent).toNat /
    Nat.pow 2 (exponent - x.exponent).toNat
  let bits := if mantissa < Nat.pow 2 52 then mantissa
    else (exponent + 1075).toNat * Nat.pow 2 52 + (mantissa - Nat.pow 2 52)
  signed x.negative (Float.ofBits bits.toUInt64)

/-- The remainder of two binary numbers by size, with the sign of the first. -/
def Binary.remainder (x y : Binary) : Binary :=
  let exponent := min x.exponent y.exponent
  let a := x.mantissa * Nat.pow 2 (x.exponent - exponent).toNat
  let b := y.mantissa * Nat.pow 2 (y.exponent - exponent).toNat
  ⟨x.negative, a % b, exponent⟩

/-- The remainder of the division of `x` by a divisor other than zero. -/
def remainder (x y : Float) : Float :=
  match parts x, parts y with
  | .nan, _ | _, .nan | .infinite _, _ => 0.0 / 0.0
  | .finite a, .infinite negative =>
    if a.mantissa = 0 then signed negative 0.0 else if a.negative = negative then x else y
  | .finite a, .finite b =>
    let r := a.remainder b
    if r.mantissa = 0 then signed b.negative 0.0
    else if a.negative = b.negative then r.toFloat
    else r.toFloat + y

end Datacube.Number
