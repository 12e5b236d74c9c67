import Datacube.Number.Reading

/-!
# Decimal numbers

A decimal keeps its digits and its scale, so `1.50` and `1.5` are equal and print differently. It
may be infinite, or no number at all: then it is quiet or signaling and may carry a code.
-/

namespace Datacube

/-- `coefficient * 10 ^ exponent`, negated when `negative`; or infinite; or no number. The mark
tells apart the numberless decimals of different cells. -/
inductive Decimal where
  | finite (negative : Bool) (coefficient : Nat) (exponent : Int)
  | infinite (negative : Bool)
  | nan (negative signaling : Bool) (code mark : Nat)
  deriving DecidableEq

namespace Decimal
open Number Text

/-- Reads the name of what is no finite number, in lower case. -/
def special? (negative : Bool) (name : List Char) : Option Decimal :=
  let code (signaling : Bool) (digits : List Char) : Option Decimal :=
    if digits.all Char.isDigit then some (.nan negative signaling (digitsValue digits) 0) else none
  match name with
  | ['i', 'n', 'f'] | ['i', 'n', 'f', 'i', 'n', 'i', 't', 'y'] => some (.infinite negative)
  | 'n' :: 'a' :: 'n' :: digits => code false digits
  | 's' :: 'n' :: 'a' :: 'n' :: digits => code true digits
  | _ => none

/-- Reads decimal notation with an optional sign; underscores do not count. -/
def ofText? (s : String) : Option Decimal :=
  let (negative, body) := signThen ((asciiDigits (stripChars s.toList)).filter (· ≠ '_'))
  match decimalNotation? body with
  | some d => some (.finite negative d.coefficient d.exponent)
  | none => special? negative (body.map Char.toLower)

/-- The nearest float; none for a signaling decimal. -/
def toFloat? : Decimal → Option Float
  | .finite negative coefficient exponent =>
    some (signed negative (Decimals.toFloat ⟨coefficient, exponent⟩))
  | .infinite negative => some (signed negative (1.0 / 0.0))
  | .nan _ signaling _ _ => if signaling then none else some (0.0 / 0.0)

def isNonzero : Decimal → Bool
  | .finite _ coefficient _ => coefficient != 0
  | _ => true

/-- Digits with the point as the scale says; scientific when the scale is positive or the first
digit stands more than six places behind the point. -/
def digitsText (coefficient : Nat) (exponent : Int) : String :=
  let digits := Nat.toDigits 10 coefficient
  let point := exponent + digits.length
  if exponent ≤ 0 && point > -6 then
    if exponent = 0 then String.ofList digits
    else if point ≤ 0 then
      "0." ++ String.ofList (List.replicate (-point).toNat '0' ++ digits)
    else String.ofList (digits.take point.toNat) ++ "." ++ String.ofList (digits.drop point.toNat)
  else
    let first := String.ofList (digits.take 1)
    let rest := String.ofList (digits.drop 1)
    let scale := point - 1
    first ++ (if rest.isEmpty then "" else "." ++ rest) ++ "E" ++
      (if scale < 0 then "-" else "+") ++ toString scale.natAbs

def text : Decimal → String
  | .finite negative coefficient exponent =>
    (if negative then "-" else "") ++ digitsText coefficient exponent
  | .infinite negative => (if negative then "-" else "") ++ "Infinity"
  | .nan negative signaling code _ =>
    (if negative then "-" else "") ++ (if signaling then "sNaN" else "NaN") ++
      (if code = 0 then "" else toString code)

/-- The precision of calculations, in digits. -/
def precision : Nat := 28

/-- Digits and scale rounded to the precision of calculations, a half going to the even
neighbour. -/
def roundDigits (coefficient : Nat) (exponent : Int) : Nat × Int :=
  let excess := digitCount coefficient - precision
  let rounded := roundHalfEven coefficient (Nat.pow 10 excess)
  if digitCount rounded > precision then (rounded / 10, exponent + excess + 1)
  else (rounded, exponent + excess)

/-- The greatest scale of a calculation, for a number of one digit. -/
def greatestScale : Int := 999999

/-- Whether the decimal is below zero; no answer for what is no number. -/
def isBelowZero? : Decimal → Option Bool
  | .finite negative coefficient _ => some (negative && coefficient != 0)
  | .infinite negative => some negative
  | .nan .. => none

/-- The text of the absolute value as a calculation gives it; none where it is out of bounds. -/
def absoluteText? : Decimal → Option String
  | .finite _ coefficient exponent =>
    let (coefficient, exponent) := roundDigits coefficient exponent
    if exponent + digitCount coefficient - 1 > greatestScale then none
    else some (digitsText coefficient exponent)
  | .infinite _ => some "Infinity"
  | .nan .. => none

end Decimal
end Datacube
