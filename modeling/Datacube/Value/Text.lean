import Datacube.Value.Basic
import Datacube.Text.Cut
import Datacube.Text.Classes

/-!
# The text of a value

`Value.quoted` writes a value so that its kind shows: texts in quotes, lists in brackets.
`Value.text` is the same except that a text stands for itself.
-/

namespace Datacube
open Text

/-- The digit for a number below sixteen. -/
def hexDigit (n : Nat) : Char := (Nat.digitChar n)

/-- The last `width` hexadecimal digits of a number. -/
def hexDigits (width n : Nat) : List Char :=
  (List.range width).reverse.map fun i => hexDigit (n / Nat.pow 16 i % 16)

def quotedChar (quote c : Char) : List Char :=
  if c = quote || c = '\\' then ['\\', c]
  else if c = '\n' then ['\\', 'n']
  else if c = '\r' then ['\\', 'r']
  else if c = '\t' then ['\\', 't']
  else if isPrintable c then [c]
  else if c.toNat < 0x100 then '\\' :: 'x' :: hexDigits 2 c.toNat
  else if c.toNat < 0x10000 then '\\' :: 'u' :: hexDigits 4 c.toNat
  else '\\' :: 'U' :: hexDigits 8 c.toNat

/-- A text in single quotes, or in double quotes when it holds a single one and no double one. -/
def quotedText (s : String) : String :=
  let quote := if s.toList.contains '\'' && !s.toList.contains '"' then '"' else '\''
  String.ofList (quote :: s.toList.flatMap (quotedChar quote) ++ [quote])

namespace Value

mutual

def quoted : Value → String
  | .null => "None"
  | .bool b => if b then "True" else "False"
  | .int n => toString n
  | .float x => Number.floatText x
  | .nan _ => "nan"
  | .decimal d => "Decimal('" ++ d.text ++ "')"
  | .text s => quotedText s
  | .list items => "[" ++ join ", " (quotedItems items) ++ "]"
  | .object fields => "\x7b" ++ join ", " (quotedFields fields) ++ "\x7d"

def quotedItems : List Value → List String
  | [] => []
  | v :: rest => quoted v :: quotedItems rest

def quotedFields : List (Value × Value) → List String
  | [] => []
  | (key, v) :: rest => (quoted key ++ ": " ++ quoted v) :: quotedFields rest

end

/-- The text of a value; a text stands for itself. -/
def toText : Value → String
  | .text s => s
  | .decimal d => d.text
  | v => v.quoted

end Value
end Datacube
