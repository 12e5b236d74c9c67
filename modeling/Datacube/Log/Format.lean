import Datacube.Number.Places
import Datacube.Text.Word
import Datacube.Value.Text

/-!
# Formats of log lines

A format is a text with fields such as `%(levelno)05d`: a name, then flags, a width and a precision
that may be left out, and a conversion. A percent sign as conversion stands for itself. A format
must declare a field; whether every field can be written shows only when a record is.
-/

namespace Datacube.Log
open Text Number

/-- How a field is written. -/
structure Style where
  flags : List Char
  width : Nat
  precision : Option Nat
  conversion : Char

/-- A part of a format. -/
inductive Part where
  | literal (c : Char)
  | field (name : String) (style : Style)

def flagSigns : List Char := ['#', '0', '+', ' ', '-']

/-! ## Declared fields -/

/-- What follows an optional number or star. -/
def afterCount : List Char → List Char
  | '*' :: rest => rest
  | chars => chars.dropWhile fun c => (digitValue? c).isSome

def afterPrecision : List Char → List Char
  | '.' :: rest =>
    if (afterCount rest).length < rest.length then afterCount rest else '.' :: rest
  | chars => chars

/-- Whether a field begins here: a name of letters, digits and underscores, and a conversion in
either case. -/
def declares : List Char → Bool
  | '%' :: '(' :: rest =>
    !(rest.takeWhile isWordChar).isEmpty &&
    match rest.dropWhile isWordChar with
    | ')' :: rest =>
      (afterPrecision (afterCount (rest.dropWhile flagSigns.contains))).head?.any fun c =>
        "diouxefgcrsa%".toList.contains c.toLower
    | _ => false
  | _ => false

/-- Whether a format declares a field, as every format must. -/
def hasField : List Char → Bool
  | [] => false
  | c :: rest => declares (c :: rest) || hasField rest

/-! ## Parts -/

/-- The name up to the parenthesis that closes it, and what follows. -/
def nameThen : Nat → List Char → Option (List Char × List Char)
  | _, [] => none
  | depth, c :: rest =>
    if c = ')' && depth = 0 then some ([], rest)
    else (nameThen (if c = '(' then depth + 1 else if c = ')' then depth - 1 else depth) rest).map
      fun (name, after) => (c :: name, after)

/-- How a field is written, and what follows it. -/
def styleThen (chars : List Char) : Option (Style × List Char) :=
  let flags := chars.takeWhile flagSigns.contains
  let rest := chars.dropWhile flagSigns.contains
  let width := digitsValue (rest.takeWhile Char.isDigit)
  let (precision, rest) := match rest.dropWhile Char.isDigit with
    | '.' :: after =>
      (some (digitsValue (after.takeWhile Char.isDigit)), after.dropWhile Char.isDigit)
    | rest => (none, rest)
  -- A size of the argument may be named, but does not count.
  let rest := match rest with
    | c :: after => if c = 'h' || c = 'l' || c = 'L' then after else rest
    | [] => rest
  match rest with
  | c :: rest => some (⟨flags, width, precision, c⟩, rest)
  | [] => none

/-- The parts of a format; none where a percent sign begins no field. -/
def parts? : Nat → List Char → Option (List Part)
  | 0, _ => none
  | _ + 1, [] => some []
  | fuel + 1, c :: rest =>
    if c ≠ '%' then (parts? fuel rest).map (.literal c :: ·)
    else match rest with
      | '(' :: rest => do
        let (name, rest) ← nameThen 0 rest
        let (style, rest) ← styleThen rest
        return .field (String.ofList name) style :: (← parts? fuel rest)
      | rest => do
        let (style, rest) ← styleThen rest
        if style.conversion = '%' then return .literal '%' :: (← parts? fuel rest) else none

namespace Style

def has (f : Style) (flag : Char) : Bool := f.flags.contains flag

/-- A text in a field of the width, at its right end unless a flag says otherwise. -/
def pad (f : Style) (chars : List Char) : List Char :=
  let blanks := List.replicate (f.width - chars.length) ' '
  if f.has '-' then chars ++ blanks else blanks ++ chars

/-- A number in a field of the width: zeros that fill it stand behind the sign. -/
def padNumber (f : Style) (negative : Bool) (mark digits : List Char) : List Char :=
  let sign := if negative then ['-'] else if f.has '+' then ['+'] else
    if f.has ' ' then [' '] else []
  let zeros := if f.has '0' && !f.has '-' then
    List.replicate (f.width - (sign.length + mark.length + digits.length)) '0' else []
  f.pad (sign ++ mark ++ zeros ++ digits)

/-- A whole number in a base, with the mark of the base if a flag asks for it. -/
def whole (f : Style) (base : Nat) (mark : List Char) (n : Int) : List Char :=
  let digits := Nat.toDigits base n.natAbs
  let digits := List.replicate ((f.precision.getD 0) - digits.length) '0' ++ digits
  f.padNumber (n < 0) (if f.has '#' then mark else []) digits

def float (f : Style) (form : Char) (x : Float) : List Char :=
  match Number.parts x with
  | .nan => f.padNumber false [] ['n', 'a', 'n']
  | .infinite negative => f.padNumber negative [] ['i', 'n', 'f']
  | .finite value =>
    let places := f.precision.getD 6
    f.padNumber value.negative [] (
      if form = 'f' then value.fixed (f.has '#') places
      else if form = 'e' then value.exponential (f.has '#') places
      else value.general (f.has '#') places)

end Style

def wholePartOf? : Value → Option Int
  | .int n => some n
  | .bool b => some (if b then 1 else 0)
  | .float x => match Number.parts x with
    | .finite value => some (value.exact.numerator.tdiv value.exact.denominator)
    | _ => none
  | .decimal (.finite negative coefficient exponent) =>
    let exact := Exact.scaled coefficient 10 exponent
    -- The coefficient has no sign, so the quotient is cut towards zero.
    let n := exact.numerator / exact.denominator
    some (if negative then -n else n)
  | _ => none

def wholeOf? : Value → Option Int
  | .int n => some n
  | .bool b => some (if b then 1 else 0)
  | _ => none

def floatOf? : Value → Option Float
  | .int n => floatOfInt? n
  | .bool b => some (if b then 1.0 else 0.0)
  | .float x => some x
  | .nan _ => some (0.0 / 0.0)
  | .decimal d => d.toFloat?
  | _ => none

/-- A text in which every character beyond ASCII is written by its code. -/
def asciiOnly (s : String) : String :=
  String.ofList (s.toList.flatMap fun c =>
    if c.toNat < 0x80 then [c]
    else if c.toNat < 0x100 then '\\' :: 'x' :: hexDigits 2 c.toNat
    else if c.toNat < 0x10000 then '\\' :: 'u' :: hexDigits 4 c.toNat
    else '\\' :: 'U' :: hexDigits 8 c.toNat)

/-- The text of a value in a field; none where the conversion does not fit the value. -/
def Style.write? (f : Style) (v : Value) : Option (List Char) :=
  let cut (s : String) : List Char := match f.precision with
    | some n => f.pad (s.toList.take n)
    | none => f.pad s.toList
  let capitals (chars : List Char) : List Char := chars.map Char.toUpper
  match f.conversion with
  | '%' => some ['%']
  | 's' => some (cut v.toText)
  | 'r' => some (cut v.quoted)
  | 'a' => some (cut (asciiOnly v.quoted))
  | 'c' => match v with
    | .text s => if s.length = 1 then some (f.pad s.toList) else none
    | v => (wholeOf? v).bind fun n => if 0 ≤ n then some (f.pad [Char.ofNat n.toNat]) else none
  | 'd' | 'i' | 'u' => (wholePartOf? v).map (f.whole 10 [])
  | 'o' => (wholeOf? v).map (f.whole 8 ['0', 'o'])
  | 'x' => (wholeOf? v).map (f.whole 16 ['0', 'x'])
  | 'X' => (wholeOf? v).map fun n => capitals (f.whole 16 ['0', 'x'] n)
  | 'f' | 'e' | 'g' => (floatOf? v).map (f.float f.conversion)
  | 'F' | 'E' | 'G' => (floatOf? v).map fun x => capitals (f.float f.conversion.toLower x)
  | _ => none

/-- The line that a format makes of the fields of a record; none where it asks for what the record
lacks. -/
def line? (format : String) (fields : Entries String Value) : Option String := do
  let parts ← parts? (format.length + 1) format.toList
  let texts ← parts.mapM fun
    | .literal c => some [c]
    | .field name style => do style.write? (← fields.get? name)
  return String.ofList texts.flatten

end Datacube.Log
