import Datacube.Yaml.Cursor

/-!
# Scalars

How the text of a scalar is written: plain, in single or double quotes, or as a block of lines.
Every function gives the text and what follows it.
-/

namespace Datacube.Yaml

/-! ## Plain scalars -/

/-- Whether a character ends a plain scalar inside brackets. -/
def isFlowMark (c : Char) : Bool :=
  c = ',' || c = '?' || c = '[' || c = ']' || c = '\x7b' || c = '\x7d'

/-- Whether a colon before the given character ends a plain scalar. -/
def endsKey (flow : Bool) (next : Option Char) : Bool :=
  endsWord next || (flow && next.any fun c => isFlowMark c && c ≠ '?')

/-- The first part of a plain scalar, up to a blank. -/
def plainRun (flow : Bool) : List Char → List Char
  | [] => []
  | c :: rest =>
    if isGap c || (c = ':' && endsKey flow rest.head?) || (flow && isFlowMark c) then []
    else c :: plainRun flow rest

/-- What parts two words of a plain scalar: blanks, or ends of lines. Also tells whether a line
ended; nothing where the scalar cannot go on. -/
def plainGap (s : Cursor) : Option (List Char × Bool) × Cursor :=
  let blanks := s.run (· = ' ')
  let s := s.advance blanks.length
  if s.at? isBreak then
    let (first, s) := s.nextLine
    match s.emptyLines (· = ' ') (s.rest.length + 1) [] with
    | some (more, s) => (some (foldBreaks first more, true), s)
    | none => (none, s)
  else (if blanks.isEmpty then none else some (blanks, false), s)

/-- A plain scalar of several words. `limit` is the first column of its later lines. The last part
tells whether it ended with a line. -/
def plainText (flow : Bool) (limit : Int) :
    Nat → List Char → Bool → Cursor → List Char × Cursor × Bool
  | 0, text, newLine, s => (text, s, newLine)
  | fuel + 1, text, newLine, s =>
    let word := plainRun flow s.rest
    if word.isEmpty || s.head? = some '#' then (text, s, newLine)
    else
      let text := text ++ word
      match plainGap (s.advance word.length) with
      | (none, s) => (text, s, s.column = 0)
      | (some (gap, ended), s) =>
        if s.head? = some '#' || (!flow && s.column < limit) || (plainRun flow s.rest).isEmpty then
          (text, s, ended)
        else plainText flow limit fuel (text ++ gap) ended s

/-! ## Quoted scalars -/

/-- The characters that a letter after a backslash stands for. -/
def escapes : List (Char × Char) :=
  [('0', '\x00'), ('a', '\x07'), ('b', '\x08'), ('t', '\t'), ('\t', '\t'), ('n', '\n'),
   ('v', '\x0b'), ('f', '\x0c'), ('r', '\r'), ('e', '\x1b'), (' ', ' '), ('"', '"'), ('\\', '\\'),
   ('/', '/'), ('N', '\u0085'), ('_', '\u00a0'), ('L', '\u2028'), ('P', '\u2029')]

/-- How many hexadecimal digits follow a letter after a backslash. -/
def codeLengths : List (Char × Nat) := [('x', 2), ('u', 4), ('U', 8)]

def hexNumber? (digits : List Char) : Option Nat :=
  digits.foldlM (fun n c => (Json.hexValue? c).map (n * 16 + ·)) 0

/-- The character of an escape after its backslash, and how many characters the escape has. Two code
units of one character are read together. -/
def escape? : List Char → Option (Char × Nat)
  | [] => none
  | c :: rest => match escapes.lookup c, codeLengths.lookup c with
    | some e, _ => some (e, 1)
    | none, none => none
    | none, some n =>
      if rest.length < n then none
      else (hexNumber? (rest.take n)).map fun code =>
        let (c, after) := Json.paired code (rest.drop n)
        (c, 1 + rest.length - after.length)

/-- The gap inside a quoted scalar: blanks, or ends of lines with the blanks around them. -/
def quotedGap (s : Cursor) : Option (List Char × Cursor) :=
  let isSpace (c : Char) : Bool := c = ' ' || c = '\t'
  let blanks := s.run isSpace
  let s := s.advance blanks.length
  if s.at? isBreak then
    let (first, s) := s.nextLine
    (s.emptyLines isSpace (s.rest.length + 1) []).map fun (more, s) => (foldBreaks first more, s)
  else some (blanks, s)

/-- The rest of a quoted scalar after its opening quote. -/
def quotedText (quote : Char) : Nat → List Char → Cursor → Option (List Char × Cursor)
  | 0, _, _ => none
  | fuel + 1, text, s =>
    match s.rest with
    | [] => none
    | c :: rest =>
      if isGap c then do
        let (gap, s) ← quotedGap s
        quotedText quote fuel (text ++ gap) s
      else if c = quote then
        -- Two single quotes stand for one.
        if quote = '\'' && rest.head? = some quote then
          quotedText quote fuel (text ++ [quote]) (s.advance 2)
        else some (text, s.advance 1)
      else if c = '\\' && quote = '"' then
        -- A backslash takes away the end of its line.
        if rest.head?.any isBreak then do
          let (_, s) := (s.advance 1).nextLine
          let (more, s) ← s.emptyLines (fun c => c = ' ' || c = '\t') (s.rest.length + 1) []
          quotedText quote fuel (text ++ more) s
        else do
          let (e, n) ← escape? rest
          quotedText quote fuel (text ++ [e]) (s.advance (1 + n))
      else quotedText quote fuel (text ++ [c]) (s.advance 1)

/-! ## Blocks of lines -/

/-- How the lines of a block become a text: whether single ends of lines are read as blanks, which
ends are kept after the last line, and by how much the block is indented, if that is said. -/
structure BlockStyle where
  folded : Bool
  keep : Option Bool
  step : Option Nat

/-- The indicators after the mark of a block. -/
def blockStyle (folded : Bool) (s : Cursor) : Option (BlockStyle × Cursor) :=
  let chomp (c : Char) : Option Bool :=
    if c = '+' then some true else if c = '-' then some false else none
  let step (c : Char) : Option Nat := if '1' ≤ c && c ≤ '9' then some (c.toNat - 0x30) else none
  let marks := s.run fun c => (chomp c).isSome || c.isDigit
  let style : Option BlockStyle := match marks with
    | [] => some ⟨folded, none, none⟩
    | [a] => if (chomp a).isSome then some ⟨folded, chomp a, none⟩
      else (step a).map fun n => ⟨folded, none, some n⟩
    | [a, b] =>
      if (chomp a).isSome then (step b).map fun n => ⟨folded, chomp a, some n⟩
      else if (chomp b).isSome then (step a).map fun n => ⟨folded, chomp b, some n⟩
      else none
    | _ => none
  let s := s.advance marks.length
  if endsWord s.head? then style.map (·, s) else none

/-- The end of the line that the mark of a block stands on. -/
def blockHead (s : Cursor) : Option Cursor :=
  let s := s.skip (· = ' ')
  let s := if s.head? = some '#' then s.skip (!isBreak ·) else s
  match s.head? with
  | none => some s
  | some c => if isBreak c then some s.nextLine.2 else none

/-- Passes the empty lines before a block and finds the deepest column in them. -/
def blockIndent (deepest : Nat) : Nat → List Char → Cursor → List Char × Nat × Cursor
  | 0, breaks, s => (breaks.reverse, deepest, s)
  | fuel + 1, breaks, s =>
    let s := s.skip (· = ' ')
    let deepest := max deepest s.column
    if s.at? isBreak then
      let (c, s) := s.nextLine
      blockIndent deepest fuel (c :: breaks) s
    else (breaks.reverse, deepest, s)

/-- Passes the blanks before a column. -/
def toColumn (indent : Nat) (s : Cursor) : Cursor :=
  s.advance ((s.rest.take (indent - s.column)).takeWhile (· = ' ')).length

/-- Passes empty lines inside a block. -/
def blockBreaks (indent : Nat) : Nat → List Char → Cursor → List Char × Cursor
  | 0, breaks, s => (breaks.reverse, s)
  | fuel + 1, breaks, s =>
    let s := toColumn indent s
    if s.at? isBreak then
      let (c, s) := s.nextLine
      blockBreaks indent fuel (c :: breaks) s
    else (breaks.reverse, s)

/-- The lines of a block. `breaks` are the ends of empty lines before the next line; the last ends
are given apart from the text. -/
def blockLines (style : BlockStyle) (indent : Nat) :
    Nat → List Char → List Char → Cursor → List Char × List Char × List Char × Cursor
  | 0, text, breaks, s => (text, [], breaks, s)
  | fuel + 1, text, breaks, s =>
    if s.column ≠ indent || s.rest.isEmpty then (text, [], breaks, s)
    else
      let isIndented (s : Cursor) : Bool := s.at? fun c => c = ' ' || c = '\t'
      let line := s.run (!isBreak ·)
      let ended := s.advance line.length
      let text := text ++ breaks ++ line
      let (last, next) := if ended.rest.isEmpty then ([], ended)
        else (fun (c, s) => ([c], s)) ended.nextLine
      let (breaks, next) := blockBreaks indent (next.rest.length + 1) [] next
      if next.column = indent && !next.rest.isEmpty then
        -- Folding leaves the ends of lines around indented ones alone.
        let joint := if style.folded && last = ['\n'] && !isIndented s && !isIndented next then
          (if breaks.isEmpty then [' '] else []) else last
        blockLines style indent fuel (text ++ joint) breaks next
      else (text, last, breaks, next)

/-- A block of lines after its mark, inside a block that stands at the given column. -/
def blockText (folded : Bool) (outer : Int) (s : Cursor) : Option (List Char × Cursor) := do
  let (style, s) ← blockStyle folded s
  let s ← blockHead s
  let least := max (outer + 1) 1
  let fuel := s.rest.length + 1
  let (breaks, indent, s) := match style.step with
    | some n =>
      let indent := (least + n - 1).toNat
      let (breaks, s) := blockBreaks indent fuel [] s
      (breaks, indent, s)
    | none =>
      let (breaks, deepest, s) := blockIndent 0 fuel [] s
      (breaks, max least.toNat deepest, s)
  let (text, last, breaks, s) := blockLines style indent fuel [] breaks s
  return (text ++ (if style.keep = some false then [] else last) ++
    (if style.keep = some true then breaks else []), s)

end Datacube.Yaml
