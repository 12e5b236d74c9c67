import Datacube.Number.Reading

/-!
# Floats with a given number of digits

`fixedText` writes so many digits after the point, `exponentialText` one digit before the point and
so many after it, and `generalText` so many digits altogether in whichever of the two forms is
shorter. All of them round the exact value, a half going to the even neighbour.
-/

namespace Datacube.Number

/-- The last `count` of some digits behind a point, which stands also without any when `keep`. -/
def withPoint (keep : Bool) (digits : List Char) (count : Nat) : List Char :=
  let digits := List.replicate (count + 1 - digits.length) '0' ++ digits
  let whole := digits.take (digits.length - count)
  if count = 0 then (if keep then whole ++ ['.'] else whole)
  else whole ++ '.' :: digits.drop (digits.length - count)

/-- The value rounded to `places` digits after the point. -/
def Binary.fixed (x : Binary) (keep : Bool) (places : Nat) : List Char :=
  withPoint keep (Nat.toDigits 10 (x.roundTo places).coefficient) places

/-- The `count + 1` first digits of the value, rounded, and the exponent of the first one. -/
def Binary.leading (x : Binary) (count : Nat) : Nat × Int :=
  if x.mantissa = 0 then (0, 0)
  else
    let first := x.target.point - 1
    let rounded := (x.roundTo (count - first)).coefficient
    if digitCount rounded > count + 1 then (rounded / 10, first + 1) else (rounded, first)

/-- The value with one digit before the point and `places` after it. -/
def Binary.exponential (x : Binary) (keep : Bool) (places : Nat) : List Char :=
  let (digits, exponent) := x.leading places
  withPoint keep (Nat.toDigits 10 digits) places ++ (exponentText exponent).toList

/-- Digits without the zeros at their end behind a point. -/
def withoutZeros (digits : List Char) : List Char :=
  if digits.contains '.' then
    ((digits.reverse.dropWhile (· = '0')).dropWhile (· = '.')).reverse
  else digits

/-- The value with `count` digits, positional for exponents from -4 below `count`; zeros at the end
are left out unless they are kept. -/
def Binary.general (x : Binary) (keep : Bool) (count : Nat) : List Char :=
  let count := max count 1
  let (digits, exponent) := x.leading (count - 1)
  let trim (chars : List Char) := if keep then chars else withoutZeros chars
  if -4 ≤ exponent && exponent < count then
    trim (x.fixed keep ((count : Int) - 1 - exponent).toNat)
  else trim (withPoint keep (Nat.toDigits 10 digits) (count - 1)) ++ (exponentText exponent).toList

end Datacube.Number
