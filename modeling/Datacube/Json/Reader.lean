import Datacube.Value.Basic

/-!
# Reading JSON

`Value.ofJson?` reads one JSON value. Numbers without point and exponent are whole numbers; the
names `NaN`, `Infinity` and `-Infinity` are accepted; of two fields with one key the later wins.
-/

namespace Datacube
namespace Json
open Number

/-- White space between tokens. -/
def isSpace (c : Char) : Bool := c = ' ' || c = '\t' || c = '\n' || c = '\r'

def skip (chars : List Char) : List Char := chars.dropWhile isSpace

def hexValue? (c : Char) : Option Nat :=
  if c.isDigit then some (c.toNat - 0x30)
  else if 'a' ≤ c && c ≤ 'f' then some (c.toNat - 0x57)
  else if 'A' ≤ c && c ≤ 'F' then some (c.toNat - 0x37)
  else none

/-- The code unit of four hexadecimal digits. -/
def unit? : List Char → Option (Nat × List Char)
  | a :: b :: c :: d :: rest => do
    let a ← hexValue? a
    let b ← hexValue? b
    let c ← hexValue? c
    let d ← hexValue? d
    some (((a * 16 + b) * 16 + c) * 16 + d, rest)
  | _ => none

/-- The character after a backslash, other than a code unit. -/
def escaped? : Char → Option Char
  | '"' => some '"'
  | '\\' => some '\\'
  | '/' => some '/'
  | 'b' => some '\x08'
  | 'f' => some '\x0c'
  | 'n' => some '\n'
  | 'r' => some '\r'
  | 't' => some '\t'
  | _ => none

/-- The character of a code unit and, for the first half of a pair, of the unit that follows. -/
def paired (high : Nat) (rest : List Char) : Char × List Char :=
  if 0xd800 ≤ high && high < 0xdc00 then
    match rest with
    | '\\' :: 'u' :: after =>
      match unit? after with
      | some (low, after) =>
        if 0xdc00 ≤ low && low < 0xe000 then
          (Char.ofNat (0x10000 + (high - 0xd800) * 0x400 + (low - 0xdc00)), after)
        else ('\ufffd', rest)
      | none => ('\ufffd', rest)
    | _ => ('\ufffd', rest)
  else if 0xdc00 ≤ high && high < 0xe000 then ('\ufffd', rest)
  else (Char.ofNat high, rest)

/-- The rest of a string after its opening quote. -/
def stringBody? : Nat → List Char → List Char → Option (String × List Char)
  | 0, _, _ => none
  | _ + 1, _, [] => none
  | fuel + 1, acc, c :: rest =>
    if c = '"' then some (String.ofList acc.reverse, rest)
    else if c = '\\' then
      match rest with
      | 'u' :: rest => match unit? rest with
        | some (unit, rest) =>
          let (c, rest) := paired unit rest
          stringBody? fuel (c :: acc) rest
        | none => none
      | e :: rest => match escaped? e with
        | some c => stringBody? fuel (c :: acc) rest
        | none => none
      | [] => none
    else if c.toNat < 0x20 then none
    else stringBody? fuel (c :: acc) rest

def digits (chars : List Char) : List Char × List Char :=
  (chars.takeWhile Char.isDigit, chars.dropWhile Char.isDigit)

/-- The fraction of a number: empty when no digit follows the point. -/
def fraction (chars : List Char) : List Char × List Char :=
  match chars with
  | '.' :: rest => if (digits rest).1.isEmpty then ([], chars) else digits rest
  | _ => ([], chars)

/-- The exponent of a number, when there is one. -/
def exponent (chars : List Char) : Option Int × List Char :=
  match chars with
  | e :: rest =>
    if e = 'e' || e = 'E' then
      let (negative, unsigned) := signThen rest
      let (run, after) := digits unsigned
      if run.isEmpty then (none, chars)
      else (some (if negative then -(digitsValue run : Int) else digitsValue run), after)
    else (none, chars)
  | [] => (none, [])

/-- A number without its sign. -/
def unsigned? (negative : Bool) (chars : List Char) : Option (Value × List Char) :=
  let (run, rest) := digits chars
  if run.isEmpty then none
  else
    let (whole, rest) := if run.head? = some '0' then (['0'], run.drop 1 ++ rest) else (run, rest)
    let (places, rest) := fraction rest
    let (scale, rest) := exponent rest
    if places.isEmpty && scale.isNone then
      let n : Int := digitsValue whole
      some (.int (if negative then -n else n), rest)
    else
      let value : Decimals := ⟨digitsValue (whole ++ places), scale.getD 0 - places.length⟩
      some (.float (signed negative value.toFloat), rest)

/-- The names of values, with what they stand for. -/
def names : List (List Char × Value) :=
  [("null".toList, .null), ("true".toList, .bool true), ("false".toList, .bool false),
   ("NaN".toList, .float (0.0 / 0.0)), ("Infinity".toList, .float (1.0 / 0.0)),
   ("-Infinity".toList, .float (-1.0 / 0.0))]

def scalar? (chars : List Char) : Option (Value × List Char) :=
  match names.findSome? fun (name, v) => (Text.dropStart? name chars).map (v, ·) with
  | some found => some found
  | none => match chars with
    | '-' :: rest => unsigned? true rest
    | _ => unsigned? false chars

mutual

/-- One value at the beginning of the text, and what follows it. Each call uses one unit of fuel, of
which there is one more than characters. -/
def value? : Nat → List Char → Option (Value × List Char)
  | 0, _ => none
  | fuel + 1, chars =>
    match skip chars with
    | '"' :: rest => (stringBody? (rest.length + 1) [] rest).map fun (s, rest) => (.text s, rest)
    | '[' :: rest => match skip rest with
      | ']' :: rest => some (.list [], rest)
      | rest => (items? fuel [] rest).map fun (items, rest) => (.list items, rest)
    | '\x7b' :: rest => match skip rest with
      | '\x7d' :: rest => some (.object [], rest)
      | rest => (fields? fuel [] rest).map fun (fields, rest) => (.object fields, rest)
    | rest => scalar? rest

/-- The rest of a list after its bracket. -/
def items? : Nat → List Value → List Char → Option (List Value × List Char)
  | 0, _, _ => none
  | fuel + 1, acc, chars =>
    match value? fuel chars with
    | some (v, rest) => match skip rest with
      | ',' :: rest => items? fuel (v :: acc) rest
      | ']' :: rest => some ((v :: acc).reverse, rest)
      | _ => none
    | none => none

/-- The rest of an object after its brace. -/
def fields? : Nat → Entries Value Value → List Char → Option (Entries Value Value × List Char)
  | 0, _, _ => none
  | fuel + 1, acc, chars =>
    match skip chars with
    | '"' :: rest => match stringBody? (rest.length + 1) [] rest with
      | some (name, rest) => match skip rest with
        | ':' :: rest => match value? fuel rest with
          | some (v, rest) => match skip rest with
            | ',' :: rest => fields? fuel (acc.put (.text name) v) rest
            | '\x7d' :: rest => some (acc.put (.text name) v, rest)
            | _ => none
          | none => none
        | _ => none
      | none => none
    | _ => none

end

end Json

/-- Reads a text that holds one JSON value and nothing else. -/
def Value.ofJson? (s : String) : Option Value :=
  let chars := s.toList
  match Json.value? (chars.length + 1) chars with
  | some (v, rest) => if (Json.skip rest).isEmpty then some v else none
  | none => none

end Datacube
