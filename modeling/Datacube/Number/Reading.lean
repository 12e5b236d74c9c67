import Datacube.Text.Cut
import Datacube.Number.Shortest

/-!
# Reading numbers from text

`readFloat?` accepts decimal notation with an optional exponent, underscores between digits, digits
of every script, blanks at both ends, and the names of infinity and NaN. `roundTo` rounds a float
to a number of decimal places.
-/

namespace Datacube.Number
open Datacube.Text

/-- Digits of any script as ASCII digits; every other character is kept. -/
def asciiDigits (chars : List Char) : List Char :=
  chars.map fun c => match digitValue? c with
    | some d => Char.ofNat (0x30 + d)
    | none => c

/-- A run of digits in which single underscores may separate digits, with what follows it. -/
def digitRun : List Char → List Char × List Char
  | [] => ([], [])
  | c :: rest =>
    if c.isDigit then let (digits, after) := digitRun rest; (c :: digits, after)
    else if c = '_' then
      match rest with
      | d :: _ => if d.isDigit then digitRun rest else ([], c :: rest)
      | [] => ([], c :: rest)
    else ([], c :: rest)

/-- A run of digits that does not begin with an underscore. -/
def digitsThen (chars : List Char) : List Char × List Char :=
  match chars with
  | '_' :: _ => ([], chars)
  | _ => digitRun chars

def digitsValue (digits : List Char) : Nat :=
  digits.foldl (fun n c => 10 * n + (c.toNat - 0x30)) 0

def signThen : List Char → Bool × List Char
  | '-' :: rest => (true, rest)
  | '+' :: rest => (false, rest)
  | rest => (false, rest)

/-- An exponent part that ends the text; no exponent counts as zero. -/
def exponentPart? : List Char → Option Int
  | [] => some 0
  | e :: rest =>
    if e = 'e' || e = 'E' then
      let (negative, rest) := signThen rest
      match digitsThen rest with
      | (digit :: digits, []) =>
        let n : Int := digitsValue (digit :: digits)
        some (if negative then -n else n)
      | _ => none
    else none

/-- Decimal notation: digits with an optional point, of which one side may be empty, and an optional
exponent. -/
def decimalNotation? (chars : List Char) : Option Decimals :=
  let (whole, rest) := digitsThen chars
  let (fraction, rest) := match rest with
    | '.' :: after => digitsThen after
    | _ => ([], rest)
  if whole.isEmpty && fraction.isEmpty then none
  else (exponentPart? rest).map fun exponent =>
    ⟨digitsValue (whole ++ fraction), exponent - fraction.length⟩

/-- The nearest float to a decimal. Far outside the range of floats the answer is infinity or zero
without computing the power of ten. -/
def Decimals.toFloat (d : Decimals) : Float :=
  if d.coefficient = 0 then 0.0
  else
    let size := d.exponent + digitCount d.coefficient
    if size > 400 then 1.0 / 0.0
    else if size < -400 then 0.0
    else Float.ofScientific d.coefficient (d.exponent < 0) d.exponent.natAbs

def signed (negative : Bool) (x : Float) : Float := if negative then -x else x

def readFloat? (s : String) : Option Float :=
  let (negative, body) := signThen (asciiDigits (stripChars s.toList))
  let name := lower (String.ofList body)
  if name == "inf" || name == "infinity" then some (signed negative (1.0 / 0.0))
  else if name == "nan" then some (0.0 / 0.0)
  else (decimalNotation? body).map fun d => signed negative d.toFloat

/-- The float a text stands for, for texts known to be in decimal notation. -/
def readFloat (s : String) : Float := (readFloat? s).getD (0.0 / 0.0)

/-- The whole number nearest to `|x| * 10 ^ places`, a half going to the even neighbour, as a
decimal. -/
def Binary.roundTo (x : Binary) (places : Int) : Decimals :=
  let numerator := x.mantissa * Nat.pow 2 x.exponent.toNat * Nat.pow 10 places.toNat
  let denominator := Nat.pow 2 (-x.exponent).toNat * Nat.pow 10 (-places).toNat
  ⟨roundHalfEven numerator denominator, -places⟩

/-- A float rounded to decimal places; `none` when the result is beyond the largest float. With so
many places that nothing changes the float is kept, with so few that nothing remains it is zero. -/
def roundTo? (x : Float) (places : Int) : Option Float :=
  match parts x with
  | .finite value =>
    if places > 323 then some x
    else if places < -308 then some (signed value.negative 0.0)
    else
      let rounded := signed value.negative (value.roundTo places).toFloat
      if isFiniteFloat rounded then some rounded else none
  | _ => some x

end Datacube.Number
