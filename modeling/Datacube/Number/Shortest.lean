import Datacube.Number.Binary

/-!
# Shortest decimal text of a float

`shortest` finds the fewest decimal digits that read back as a given positive binary number: it
tries the two neighbours of the value on the decimal grids of 1, 2, … 17 digits and takes the
first grid with a point inside the interval of reals that round to the value. `floatText` writes
these digits, positionally for exponents from -4 to 15.
-/

namespace Datacube.Number

/-- Digits `coefficient` on the grid of multiples of `10 ^ exponent`. -/
structure Decimals where
  coefficient : Nat
  exponent : Int

/-- A positive value with the bounds of the reals that round to it, over one denominator. -/
structure Target where
  low : Nat
  value : Nat
  high : Nat
  denominator : Nat
  closed : Bool

/-- The rounding interval of a binary number with the given positive mantissa. Below a power of two
the neighbour is half as far away. -/
def Binary.target (x : Binary) : Target :=
  let up := Nat.pow 2 (x.exponent - 2).toNat
  let below := if x.mantissa = Nat.pow 2 52 && x.exponent > -1074 then 1 else 2
  { low := (4 * x.mantissa - below) * up
    value := 4 * x.mantissa * up
    high := (4 * x.mantissa + 2) * up
    denominator := Nat.pow 2 (2 - x.exponent).toNat
    closed := x.mantissa % 2 == 0 }

def digitCount (n : Nat) : Nat := (Nat.toDigits 10 n).length

namespace Target

/-- The position of the decimal point: the value lies in `[10 ^ (p - 1), 10 ^ p]`. -/
def point (t : Target) : Int :=
  if t.denominator ≤ t.value then digitCount (t.value / t.denominator)
  else 1 - (digitCount (t.denominator / t.value) : Int)

def accepts (t : Target) (d : Decimals) : Bool :=
  let scaled := d.coefficient * Nat.pow 10 d.exponent.toNat * t.denominator
  let unit := Nat.pow 10 (-d.exponent).toNat
  if t.closed then t.low * unit ≤ scaled && scaled ≤ t.high * unit
  else t.low * unit < scaled && scaled < t.high * unit

/-- The neighbour of the value on the grid of multiples of `10 ^ exponent` that reads back as it;
of two, the nearer one, and the even one at equal distance. -/
def onGrid? (t : Target) (exponent : Int) : Option Decimals :=
  let numerator := t.value * Nat.pow 10 (-exponent).toNat
  let denominator := t.denominator * Nat.pow 10 exponent.toNat
  let floor : Decimals := ⟨numerator / denominator, exponent⟩
  let next : Decimals := ⟨numerator / denominator + 1, exponent⟩
  match t.accepts floor, t.accepts next with
  | true, true => some ⟨roundHalfEven numerator denominator, exponent⟩
  | true, false => some floor
  | false, true => some next
  | false, false => none

/-- The first grid of at most `digits` digits with a hit. -/
def search (t : Target) (point : Int) : Nat → Nat → Decimals
  | 0, used => ⟨roundHalfEven (t.value * Nat.pow 10 ((used : Int) - point).toNat)
      (t.denominator * Nat.pow 10 (point - used).toNat), point - used⟩
  | fuel + 1, used => (t.onGrid? (point - used)).getD (t.search point fuel (used + 1))

end Target

/-- The fewest decimal digits that read back as the positive number; seventeen always do. -/
def Binary.shortest (x : Binary) : Decimals :=
  let t := x.target
  t.search t.point 17 1

/-- The digits of `d` without zeros at the end, and the position of the decimal point. -/
def Decimals.digits (d : Decimals) : List Char × Int :=
  let digits := Nat.toDigits 10 d.coefficient
  ((digits.reverse.dropWhile (· == '0')).reverse, d.exponent + digits.length)

/-- Digits with the decimal point at `point`, padded with zeros and at least one digit on both
sides. -/
def positional (digits : List Char) (point : Int) : String :=
  if point ≤ 0 then "0." ++ String.ofList (List.replicate (-point).toNat '0' ++ digits)
  else
    let whole := digits.take point.toNat ++ List.replicate (point.toNat - digits.length) '0'
    let fraction := digits.drop point.toNat
    String.ofList whole ++ "." ++ (if fraction.isEmpty then "0" else String.ofList fraction)

/-- An exponent with its sign and at least two digits. -/
def exponentText (exponent : Int) : String :=
  let digits := toString exponent.natAbs
  (if exponent < 0 then "e-" else "e+") ++ (if digits.length < 2 then "0" ++ digits else digits)

/-- Digits in scientific form: one before the point. -/
def scientific (digits : List Char) (point : Int) : String :=
  match digits with
  | [] => "0"
  | [d] => d.toString ++ exponentText (point - 1)
  | d :: rest => d.toString ++ "." ++ String.ofList rest ++ exponentText (point - 1)

/-- The text of a float: the shortest digits that read back, positional for exponents from -4 to 15
and scientific beyond, with `.0` on whole numbers. -/
def floatText (x : Float) : String :=
  match parts x with
  | .nan => "nan"
  | .infinite negative => if negative then "-inf" else "inf"
  | .finite value =>
    let sign := if value.negative then "-" else ""
    if value.mantissa = 0 then sign ++ "0.0"
    else
      let (digits, point) := value.shortest.digits
      sign ++ (if -3 ≤ point && point ≤ 16 then positional digits point
        else scientific digits point)

end Datacube.Number
