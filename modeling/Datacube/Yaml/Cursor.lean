import Datacube.Json.Reader

/-!
# Positions in a YAML text

A cursor is what remains of a text together with the line and column where it stands. In YAML the
column of a token decides which block it belongs to, and a token that is followed by a colon is a
key only if both are on one line.
-/

namespace Datacube.Yaml

/-- What remains of a text, and where it begins. -/
structure Cursor where
  rest : List Char
  index : Nat
  line : Nat
  column : Nat

/-- Whether a character ends a line. -/
def isBreak (c : Char) : Bool :=
  c = '\n' || c = '\r' || c = '\u0085' || c = '\u2028' || c = '\u2029'

/-- Whether a character parts words. -/
def isGap (c : Char) : Bool := c = ' ' || c = '\t' || isBreak c

def endsWord : Option Char → Bool
  | some c => isGap c
  | none => true

/-- Whether a text may hold a character. -/
def isAllowed (c : Char) : Bool :=
  c = '\t' || c = '\n' || c = '\r' || (' ' ≤ c && c ≤ '~') || c = '\u0085' ||
    ('\u00a0' ≤ c && c ≤ '\ufffd') || 0x10000 ≤ c.toNat

namespace Cursor

def start (chars : List Char) : Cursor := ⟨chars, 0, 0, 0⟩

def head? (s : Cursor) : Option Char := s.rest.head?

/-- Whether the next character passes a test. -/
def at? (s : Cursor) (test : Char → Bool) : Bool := s.head?.any test

/-- Passes characters of one line. -/
def advance (s : Cursor) (n : Nat) : Cursor :=
  { s with rest := s.rest.drop n, index := s.index + n, column := s.column + n }

/-- The characters at the beginning that pass a test. -/
def run (s : Cursor) (test : Char → Bool) : List Char := s.rest.takeWhile test

/-- Passes the characters at the beginning that pass a test. -/
def skip (s : Cursor) (test : Char → Bool) : Cursor := s.advance (s.run test).length

/-- Passes the end of a line; most ends count as a line feed. -/
def nextLine (s : Cursor) : Char × Cursor :=
  let (c, n) := match s.rest with
    | '\r' :: '\n' :: _ => ('\n', 2)
    | c :: _ => (if c = '\u2028' || c = '\u2029' then c else '\n', 1)
    | [] => ('\n', 0)
  (c, { rest := s.rest.drop n, index := s.index + n, line := s.line + 1, column := 0 })

/-- Whether a mark such as three dashes stands here as a word of its own. -/
def marked (s : Cursor) (mark : String) : Bool :=
  match Text.dropStart? mark.toList s.rest with
  | some rest => endsWord rest.head?
  | none => false

/-- Whether a document begins or ends here. -/
def atBoundary (s : Cursor) : Bool := s.column = 0 && (s.marked "---" || s.marked "...")

/-- Passes ends of lines, and the characters of a test before and between them. Gives the ends, or
nothing where a document ends in between. -/
def emptyLines (s : Cursor) (test : Char → Bool) : Nat → List Char → Option (List Char × Cursor)
  | 0, breaks => some (breaks.reverse, s)
  | fuel + 1, breaks =>
    if s.atBoundary then none
    else
      let s := s.skip test
      if s.at? isBreak then
        let (c, s) := s.nextLine
        s.emptyLines test fuel (c :: breaks)
      else some (breaks.reverse, s)

end Cursor

/-- How ends of lines inside a scalar are read: a single one as a blank, and of several the first is
dropped. -/
def foldBreaks (first : Char) (more : List Char) : List Char :=
  (if first ≠ '\n' then [first] else if more.isEmpty then [' '] else []) ++ more

end Datacube.Yaml
