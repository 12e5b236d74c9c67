/-!
# The exact value of a binary number

A finite float is an integer times a power of two. `parts` reads both off its bits, so that
comparison, rounding and printing work on exact integers.
-/

namespace Datacube.Number

/-- A finite float: `mantissa * 2 ^ exponent`, negated when `negative`. -/
structure Binary where
  negative : Bool
  mantissa : Nat
  exponent : Int

/-- What a float denotes. -/
inductive Parts where
  | nan
  | infinite (negative : Bool)
  | finite (value : Binary)

/-- The parts of a float, from its sign, exponent and fraction bits. -/
def parts (x : Float) : Parts :=
  let bits := x.toBits.toNat
  let negative := bits / Nat.pow 2 63 == 1
  let exponent : Nat := bits / Nat.pow 2 52 % Nat.pow 2 11
  let fraction := bits % Nat.pow 2 52
  if exponent = 2047 then if fraction = 0 then .infinite negative else .nan
  else if exponent = 0 then .finite ⟨negative, fraction, -1074⟩
  else .finite ⟨negative, Nat.pow 2 52 + fraction, (exponent : Int) - 1075⟩

/-- A fraction of integers with a positive denominator. -/
structure Exact where
  numerator : Int
  denominator : Nat

namespace Exact

def ofInt (n : Int) : Exact := ⟨n, 1⟩

def scaled (coefficient : Int) (base : Nat) (exponent : Int) : Exact :=
  ⟨coefficient * (Nat.pow base exponent.toNat : Nat), Nat.pow base (-exponent).toNat⟩

/-- Equality by cross multiplication. -/
def same (a b : Exact) : Bool := a.numerator * b.denominator == b.numerator * a.denominator

/-- Order by cross multiplication. -/
def less (a b : Exact) : Bool := a.numerator * b.denominator < b.numerator * a.denominator

end Exact

def Binary.exact (x : Binary) : Exact :=
  .scaled (if x.negative then -(x.mantissa : Int) else x.mantissa) 2 x.exponent

/-- The whole number a float stands for, when it is one. -/
def wholePart? (x : Float) : Option Int :=
  match parts x with
  | .finite value =>
    let exact := value.exact
    if exact.numerator % exact.denominator = 0 then some (exact.numerator / exact.denominator)
    else none
  | _ => none

/-- Whether the float is neither infinite nor NaN. -/
def isFiniteFloat (x : Float) : Bool :=
  match parts x with
  | .finite _ => true
  | _ => false

/-- The nearest float to a whole number; `none` beyond the largest float. -/
def floatOfInt? (n : Int) : Option Float :=
  let x := Float.ofInt n
  if isFiniteFloat x then some x else none

/-- The nearest whole number to `numerator / denominator`; a half goes to the even neighbour. -/
def roundHalfEven (numerator denominator : Nat) : Nat :=
  let quotient := numerator / denominator
  let twice := 2 * (numerator % denominator)
  if twice < denominator || (twice == denominator && quotient % 2 == 0) then quotient
  else quotient + 1

end Datacube.Number
