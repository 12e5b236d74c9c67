import Datacube.Value.Text

/-!
# Writing JSON

`Value.json` writes a value in ASCII, with a blank after commas and colons. Decimals, which JSON
cannot carry, are written as their text.
-/

namespace Datacube
open Text

namespace Json

def unitEscape (n : Nat) : List Char := '\\' :: 'u' :: hexDigits 4 n

/-- A character inside a string; beyond the first plane it takes two escapes. -/
def stringChar (c : Char) : List Char :=
  if c = '"' then ['\\', '"']
  else if c = '\\' then ['\\', '\\']
  else if c = '\n' then ['\\', 'n']
  else if c = '\r' then ['\\', 'r']
  else if c = '\t' then ['\\', 't']
  else if c = '\x08' then ['\\', 'b']
  else if c = '\x0c' then ['\\', 'f']
  else if 0x20 ≤ c.toNat && c.toNat < 0x7f then [c]
  else if c.toNat < 0x10000 then unitEscape c.toNat
  else
    let n := c.toNat - 0x10000
    unitEscape (0xd800 + n / 0x400) ++ unitEscape (0xdc00 + n % 0x400)

def string (s : String) : String :=
  String.ofList ('"' :: s.toList.flatMap stringChar ++ ['"'])

/-- A JSON number, or the name of what is none. -/
def number (x : Float) : String :=
  match Number.parts x with
  | .nan => "NaN"
  | .infinite negative => if negative then "-Infinity" else "Infinity"
  | .finite _ => Number.floatText x

end Json

namespace Value
open Json

def keyText : Value → String
  | .null => "null"
  | .bool b => if b then "true" else "false"
  | .float x => number x
  | .nan _ => "NaN"
  | v => v.toText

mutual

def json : Value → String
  | .null => "null"
  | .bool b => if b then "true" else "false"
  | .int n => toString n
  | .float x => number x
  | .nan _ => "NaN"
  | .decimal d => string d.text
  | .text s => string s
  | .list items => "[" ++ join ", " (jsonItems items) ++ "]"
  | .object fields => "\x7b" ++ join ", " (jsonFields fields) ++ "\x7d"

def jsonItems : List Value → List String
  | [] => []
  | v :: rest => json v :: jsonItems rest

def jsonFields : List (Value × Value) → List String
  | [] => []
  | (key, v) :: rest => (string (keyText key) ++ ": " ++ json v) :: jsonFields rest

end

end Value
end Datacube
