import Datacube.Number.Decimal

/-!
# Comparing numbers of different kinds

Whole numbers, floats and decimals are compared by their exact values. Numbers of different size are
told apart by the positions of their first digits, so that no great power is computed for them.
-/

namespace Datacube.Number

/-- The number `significand * base ^ exponent`, where the base is two or ten. -/
structure Scaled where
  significand : Int
  base : Nat
  exponent : Int

namespace Scaled

def ofInt (n : Int) : Scaled := ⟨n, 2, 0⟩

def ofBinary (x : Binary) : Scaled :=
  ⟨if x.negative then -(x.mantissa : Int) else x.mantissa, 2, x.exponent⟩

def exact (x : Scaled) : Exact := .scaled x.significand x.base x.exponent

/-- Bounds of the absolute value of a number other than zero, as exponents of two: a decimal place
takes between three and four binary ones. -/
def bounds (x : Scaled) : Int × Int :=
  let first : Int := x.significand.natAbs.log2
  if x.base = 2 then (first + x.exponent, first + x.exponent + 1)
  else if x.exponent < 0 then (first + 4 * x.exponent, first + 3 * x.exponent + 1)
  else (first + 3 * x.exponent, first + 4 * x.exponent + 1)

def place (x : Scaled) : Int := digitCount x.significand.natAbs + x.exponent

/-- The order of the absolute values of two numbers other than zero. -/
def compareSize (x y : Scaled) : Ordering :=
  if x.bounds.2 ≤ y.bounds.1 then .lt
  else if y.bounds.2 ≤ x.bounds.1 then .gt
  else if x.base = 10 && y.base = 10 && x.place ≠ y.place then
    if x.place < y.place then .lt else .gt
  else
    let least := min x.exponent y.exponent
    let a := (if x.base = y.base then { x with exponent := x.exponent - least } else x).exact
    let b := (if x.base = y.base then { y with exponent := y.exponent - least } else y).exact
    compare (a.numerator.natAbs * b.denominator) (b.numerator.natAbs * a.denominator)

def order (x y : Scaled) : Ordering :=
  match compare x.significand.sign y.significand.sign with
  | .eq =>
    if x.significand = 0 then .eq
    else if x.significand < 0 then (compareSize x y).swap else compareSize x y
  | o => o

end Scaled

/-- Where a number stands: a decimal that is no number has no place, not even an unknown one. -/
inductive Magnitude where
  | finite (value : Scaled)
  | infinite (negative : Bool)
  | nan
  | invalid

def Magnitude.ofFloat (x : Float) : Magnitude :=
  match parts x with
  | .nan => .nan
  | .infinite negative => .infinite negative
  | .finite value => .finite (.ofBinary value)

def Magnitude.ofDecimal : Decimal → Magnitude
  | .finite negative coefficient exponent =>
    .finite ⟨if negative then -(coefficient : Int) else coefficient, 10, exponent⟩
  | .infinite negative => .infinite negative
  | .nan .. => .invalid

end Datacube.Number
