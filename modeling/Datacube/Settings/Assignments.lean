import Datacube.Entries
import Datacube.Text.Cut

/-!
# Files of assignments

A file of assignments gives values to variables, one a line: a name, perhaps after `export`, an
equals sign and a value. A value in quotes may go over several lines and hold escapes; a plain one
ends at a comment. In every value `${name}` stands for the value of a variable. A line of another
form is skipped.
-/

namespace Datacube.Settings.Assignments
open Text

def unifyLines : List Char → List Char
  | '\r' :: '\n' :: rest => '\n' :: unifyLines rest
  | '\r' :: rest => '\n' :: unifyLines rest
  | c :: rest => c :: unifyLines rest
  | [] => []

/-- Whether a character is a blank within a line. -/
def isGap (c : Char) : Bool := isBlank c && c != '\n'

/-! ## Quoted values -/

/-- Replaces the escapes of a quoted value: a backslash before one of the listed characters. -/
def unescaped (escapes : List (Char × Char)) : List Char → List Char
  | '\\' :: c :: rest => match escapes.lookup c with
    | some e => e :: unescaped escapes rest
    | none => '\\' :: unescaped escapes (c :: rest)
  | c :: rest => c :: unescaped escapes rest
  | [] => []
termination_by chars => chars.length

def plainEscapes : List (Char × Char) := [('\\', '\\'), ('\'', '\'')]

def fullEscapes : List (Char × Char) :=
  [('\\', '\\'), ('\'', '\''), ('"', '"'), ('a', '\x07'), ('b', '\x08'), ('f', '\x0c'), ('n', '\n'),
   ('r', '\r'), ('t', '\t'), ('v', '\x0b')]

/-- The characters before the first quote that follows no backslash, and what comes after it.
`escaped` tells whether a backslash stands in front. -/
def plainClose? (quote : Char) (escaped : Bool) : List Char → Option (List Char × List Char)
  | [] => none
  | c :: rest =>
    if c = quote && !escaped then some ([], rest)
    else (plainClose? quote (c = '\\') rest).map fun (body, after) => (c :: body, after)

/-- A quoted value after its opening quote. It ends at the first quote that follows no backslash, or
at the last quote at all where every quote follows one. -/
def quoted? (quote : Char) (chars : List Char) : Option (List Char × List Char) :=
  (plainClose? quote false chars).or (cutLast? quote chars)

/-! ## Lines -/

/-- What was read and what follows it; where the form is broken, what follows the sound part. -/
abbrev Reading (α : Type) := Except (List Char) (α × List Char)

/-- The characters before a comment, which begins with a blank and a number sign. -/
def uncommented : List Char → List Char
  | [] => []
  | c :: rest =>
    if isBlank c && (rest.dropWhile isBlank).head? = some '#' then [] else c :: uncommented rest

/-- What follows `export` and the blanks after it, if a line begins so. -/
def afterExport (chars : List Char) : List Char :=
  match dropStart? "export".toList chars with
  | some (c :: rest) => if isGap c then rest.dropWhile isGap else chars
  | _ => chars

/-- The name of a line; a comment has none. -/
def name (chars : List Char) : Reading (Option (List Char)) :=
  match chars with
  | '#' :: _ => .ok (none, chars)
  | '\'' :: rest => match rest.takeWhile (· ≠ '\''), rest.dropWhile (· ≠ '\'') with
    | c :: body, _ :: after => .ok (some (c :: body), after)
    | _, _ => .error chars
  | chars =>
    let inName (c : Char) : Bool := !isBlank c && c != '=' && c != '#'
    match chars.takeWhile inName with
    | [] => .error chars
    | found => .ok (some found, chars.dropWhile inName)

/-- The value behind an equals sign. -/
def value (chars : List Char) : Reading (List Char) :=
  match chars.dropWhile isGap with
  | '\'' :: rest => match quoted? '\'' rest with
    | some (body, after) => .ok (unescaped plainEscapes body, after)
    | none => .error ('\'' :: rest)
  | '"' :: rest => match quoted? '"' rest with
    | some (body, after) => .ok (unescaped fullEscapes body, after)
    | none => .error ('"' :: rest)
  | _ =>
    .ok (stripChars (uncommented (chars.takeWhile (· ≠ '\n'))), chars.dropWhile (· ≠ '\n'))

/-- What follows the end of a line, before which a comment may stand. -/
def lineEnd (chars : List Char) : Reading Unit :=
  let rest := match chars.dropWhile isGap with
    | '#' :: rest => rest.dropWhile (· ≠ '\n')
    | _ => chars
  match rest.dropWhile isGap with
  | [] => .ok ((), [])
  | c :: after => if c = '\n' then .ok ((), after) else .error rest

/-- The assignment of a line: a name with a value, or nothing. -/
def line (chars : List Char) : Except (List Char) (Option (String × String) × List Char) := do
  let (name, rest) ← name (afterExport chars)
  let (value, rest) ← match rest.dropWhile isGap with
    | '=' :: after => do
      let (v, rest) ← value after
      pure (some v, rest)
    | rest => pure (none, rest)
  let ((), rest) ← lineEnd rest
  return (match name, value with
    | some name, some value => some (String.ofList name, String.ofList value)
    | _, _ => none, rest)

/-- The assignments of a file. Every line takes a character, so the length bounds their number. -/
def lines : Nat → List Char → List (String × String)
  | 0, _ => []
  | fuel + 1, chars => match chars.dropWhile isBlank with
    | [] => []
    | start => match line start with
      | .ok (found, rest) => found.toList ++ lines fuel rest
      | .error rest => lines fuel ((rest.dropWhile (· ≠ '\n')).drop 1)

/-! ## Variables -/

/-- A reference to a variable after its opening: the name, the text that stands for a missing value,
and what follows. -/
def reference? (chars : List Char) : Option (String × String × List Char) :=
  let body := chars.takeWhile (· ≠ '\x7d')
  match chars.dropWhile (· ≠ '\x7d'), cutFirst? ':' body with
  | _ :: after, none => some (String.ofList body, "", after)
  | _ :: after, some (name, '-' :: other) => some (String.ofList name, String.ofList other, after)
  | _, _ => none

/-- A value with the values of the variables that it refers to. A reference takes characters, so the
length bounds the steps. -/
def expand (known : Entries String String) : Nat → List Char → List Char
  | 0, chars => chars
  | _ + 1, [] => []
  | fuel + 1, c :: rest =>
    match c, rest with
    | '$', '\x7b' :: after => match reference? after with
      | some (name, other, after) =>
        ((known.get? name).getD other).toList ++ expand known fuel after
      | none => c :: expand known fuel rest
    | _, _ => c :: expand known fuel rest

/-- The variables of a file in an environment. A line may refer to the environment and to the lines
before it, which win. -/
def read (environment : Entries String String) (text : String) : Entries String String :=
  let chars := unifyLines text.toList
  (lines (chars.length + 1) chars).foldl (fun found (name, v) =>
    found.put name (String.ofList (expand (environment.putAll found) (v.length + 1) v.toList))) []

end Datacube.Settings.Assignments
