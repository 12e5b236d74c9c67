import Datacube.Number.Reading
import Datacube.Value.Basic

/-!
# The meaning of plain scalars

A scalar without quotes is null, a truth value or a number if it is written like one, and a text
otherwise. Digits may be parted by underscores; whole numbers may be binary, octal or hexadecimal,
and colons part the places of a number to the base sixty.
-/

namespace Datacube.Yaml
open Number

/-- The plain scalars with a fixed meaning. -/
def words : List (String × Value) :=
  (["", "~", "null", "Null", "NULL"].map (·, .null)) ++
  (["yes", "Yes", "YES", "true", "True", "TRUE", "on", "On", "ON"].map (·, .bool true)) ++
  (["no", "No", "NO", "false", "False", "FALSE", "off", "Off", "OFF"].map (·, .bool false))

def digitOf? (c : Char) : Option Nat :=
  if c.isDigit then some (c.toNat - 0x30)
  else if 'a' ≤ c && c ≤ 'f' then some (c.toNat - 0x57)
  else if 'A' ≤ c && c ≤ 'F' then some (c.toNat - 0x37)
  else none

def digitsTo (base : Nat) (digits : List Char) : Nat :=
  digits.foldl (fun n c => n * base + (digitOf? c).getD 0) 0

/-- Whether digits may stand in a number to a base; underscores may stand between them. -/
def areDigits (base : Nat) (chars : List Char) : Bool :=
  chars.all fun c => c = '_' || (digitOf? c).any (· < base)

/-- Characters without underscores. -/
def dense (chars : List Char) : List Char := chars.filter (· ≠ '_')

/-- Whether characters are a place of a number to the base sixty: one or two digits below sixty. -/
def isSixtieth : List Char → Bool
  | [a] => a.isDigit
  | [a, b] => '0' ≤ a && a ≤ '5' && b.isDigit
  | _ => false

/-- The value of places to the base sixty. -/
def sexagesimal (places : List Nat) : Nat := places.foldl (fun n d => n * 60 + d) 0

def wholeNumber? : List Char → Option Nat
  | '0' :: 'b' :: digits =>
    if !(dense digits).isEmpty && areDigits 2 digits then some (digitsTo 2 (dense digits)) else none
  | '0' :: 'x' :: digits =>
    if !(dense digits).isEmpty && areDigits 16 digits then
      some (digitsTo 16 (dense digits)) else none
  | '0' :: digits => if areDigits 8 digits then some (digitsTo 8 (dense digits)) else none
  | c :: rest =>
    if !c.isDigit then none
    else match Text.cutAll ':' (c :: rest) with
      | [digits] => if areDigits 10 digits then some (digitsTo 10 (dense digits)) else none
      | first :: more =>
        if areDigits 10 first && more.all isSixtieth then
          some (sexagesimal ((first :: more).map fun p => digitsTo 10 (dense p)))
        else none
      | [] => none
  | [] => none

/-- Whether characters are an exponent with a sign, or nothing. -/
def isExponent : List Char → Bool
  | [] => true
  | e :: sign :: digits =>
    (e = 'e' || e = 'E') && (sign = '+' || sign = '-') && !digits.isEmpty && digits.all Char.isDigit
  | _ => false

/-- A decimal fraction without its sign: it has a point, and its exponent has a sign. -/
def fraction? (chars : List Char) : Option Float :=
  match Text.cutFirst? '.' chars with
  | none => none
  | some (whole, rest) =>
    let places := rest.takeWhile fun c => c.isDigit || c = '_'
    let exponent := rest.drop places.length
    let wellFormed := match whole with
      | [] => places.head?.any Char.isDigit
      | c :: more => c.isDigit && areDigits 10 more
    if wellFormed && isExponent exponent then
      readFloat? (String.ofList (dense whole ++ '.' :: dense places ++ exponent))
    else none

/-- A number to the base sixty with a decimal fraction, without its sign. -/
def sixtyFraction? (chars : List Char) : Option Float :=
  match Text.cutAll ':' chars with
  | first :: second :: more =>
    let places := second :: more
    match Text.cutFirst? '.' (places.getLast?.getD []) with
    | none => none
    | some (last, decimals) =>
      let middle := places.dropLast ++ [last]
      if first.head?.any Char.isDigit && areDigits 10 first && middle.all isSixtieth &&
          areDigits 10 decimals then do
        let seconds ← readFloat? (String.ofList (last ++ '.' :: dense decimals))
        return seconds + Float.ofNat
          (60 * sexagesimal ((first :: places.dropLast).map fun p => digitsTo 10 (dense p)))
      else none
  | _ => none

def float? (signed : Bool) (chars : List Char) : Option Float :=
  let s := String.ofList chars
  if [".inf", ".Inf", ".INF"].contains s then some (1.0 / 0.0)
  else if !signed && [".nan", ".NaN", ".NAN"].contains s then some (0.0 / 0.0)
  else if signed && chars.head? = some '.' then none
  else (fraction? chars).or (sixtyFraction? chars)

/-- Whether a plain scalar is a binary or hexadecimal number of underscores alone. -/
def isHollowNumber (s : String) : Bool :=
  match (signThen s.toList).2 with
  | '0' :: base :: rest =>
    (base = 'b' || base = 'x') && !rest.isEmpty && rest.all (· = '_')
  | _ => false

def plainValue (s : String) : Value :=
  match words.lookup s with
  | some v => v
  | none =>
    let chars := s.toList
    let (negative, unsigned) := signThen chars
    let signed := unsigned.length < chars.length
    match float? signed unsigned with
    | some x => .float (if negative then -x else x)
    | none => match wholeNumber? unsigned with
      | some n => .int (if negative then -n else n)
      | none => .text s

end Datacube.Yaml
