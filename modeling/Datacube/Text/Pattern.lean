/-!
# Patterns of names

A pattern describes names: `*` stands for any characters, `?` for one, and brackets for one of the
characters between them, or for none of those after an exclamation mark. A bracket that is never
closed stands for itself.
-/

namespace Datacube.Text

/-- The characters between brackets, of which the first may be a closing one, and what follows. -/
def bracketBody? (chars : List Char) : Option (List Char × List Char) :=
  let (mark, rest) := match chars with
    | '!' :: rest => (['!'], rest)
    | _ => ([], chars)
  let (first, rest) := match rest with
    | ']' :: rest => ([']'], rest)
    | _ => ([], rest)
  match rest.dropWhile (· ≠ ']') with
  | _ :: after => some (mark ++ first ++ rest.takeWhile (· ≠ ']'), after)
  | [] => none

/-- Whether a character is one of a list in which a dash between two characters stands for all from
the one to the other. -/
def isListed (c : Char) : List Char → Bool
  | a :: '-' :: b :: rest => (a ≤ c && c ≤ b) || isListed c rest
  | a :: rest => a == c || isListed c rest
  | [] => false

/-- Whether a character is described by the characters between brackets. -/
def inBrackets (c : Char) : List Char → Bool
  | '!' :: body => !isListed c body
  | body => isListed c body

/-- A part of a pattern. -/
inductive PatternPart where
  | anyRun
  | anyOne
  | listed (body : List Char)
  | literal (c : Char)

/-- The parts of a pattern. Every part takes a character of the pattern. -/
def patternParts : Nat → List Char → List PatternPart
  | 0, _ => []
  | _ + 1, [] => []
  | fuel + 1, c :: rest =>
    if c = '*' then .anyRun :: patternParts fuel rest
    else if c = '?' then .anyOne :: patternParts fuel rest
    else if c = '[' then match bracketBody? rest with
      | some (body, rest) => .listed body :: patternParts fuel rest
      | none => .literal c :: patternParts fuel rest
    else .literal c :: patternParts fuel rest

/-- Whether a part other than a run describes a character. -/
def PatternPart.describes (c : Char) : PatternPart → Bool
  | .anyRun => false
  | .anyOne => true
  | .listed body => inBrackets c body
  | .literal d => c == d

/-- Whether the test holds for the characters or for what follows some of the first ones. -/
def somewhere (test : List Char → Bool) : List Char → Bool
  | [] => test []
  | c :: rest => test (c :: rest) || somewhere test rest

def describes : List PatternPart → List Char → Bool
  | [], chars => chars.isEmpty
  | .anyRun :: parts, chars => somewhere (describes parts) chars
  | _ :: _, [] => false
  | part :: parts, c :: rest => part.describes c && describes parts rest

def fits (pattern name : String) : Bool :=
  describes (patternParts pattern.length pattern.toList) name.toList

end Datacube.Text
