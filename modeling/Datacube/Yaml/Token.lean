import Datacube.Yaml.Scalar

/-!
# Tokens

The tokens of a YAML text. Blocks are delimited by their columns: a token further to the right than
its block opens a new one, and a token further to the left closes those that it leaves. A scalar or
a bracket is only known to begin a key when a colon follows, so each one that may be a key is
remembered as a candidate, and its slot is marked when the colon comes.
-/

namespace Datacube.Yaml

/-- A token. -/
inductive Token where
  | documentStart
  | documentEnd
  | sequenceStart
  | mappingStart
  | blockEnd
  | openList
  | closeList
  | openObject
  | closeObject
  | separator
  | entry
  | key
  | value
  | scalar (plain : Bool) (text : String)
  deriving DecidableEq, Repr

/-- A token that begins a key if a colon follows. One that stands where only a key can must be
followed by a colon. -/
structure Candidate where
  slot : Nat
  required : Bool
  start : Cursor

/-- The state of reading tokens: how many brackets are open, the columns of the open blocks, whether
a key may begin here, and what was read. Each slot holds a token with those in front of it. -/
structure Layout where
  cursor : Cursor
  flow : Nat
  indent : Int
  outer : List Int
  keysAllowed : Bool
  candidates : Entries Nat Candidate
  slots : Array (List Token)

namespace Layout

def start (chars : List Char) : Layout := ⟨.start chars, 0, -1, [], true, [], #[]⟩

def column (s : Layout) : Int := s.cursor.column

def push (s : Layout) (t : Token) : Layout := { s with slots := s.slots.push [t] }

/-- Passes characters of one line. -/
def advance (s : Layout) (n : Nat) : Layout := { s with cursor := s.cursor.advance n }

def allow (s : Layout) (keysAllowed : Bool) : Layout := { s with keysAllowed }

/-! ## Blocks -/

/-- How many blocks a column leaves, and the blocks that remain. -/
def left (column : Int) : Int → List Int → Nat × Int × List Int
  | indent, [] => (0, indent, [])
  | indent, o :: outer =>
    if column < indent then
      let (n, indent, outer) := left column o outer
      (n + 1, indent, outer)
    else (0, indent, o :: outer)

/-- Closes the blocks that a column leaves. Inside brackets columns do not count. -/
def unwind (s : Layout) (column : Int) : Layout :=
  if s.flow ≠ 0 then s
  else
    let (n, indent, outer) := left column s.indent s.outer
    { s with indent, outer, slots := s.slots ++ Array.replicate n [Token.blockEnd] }

/-- Opens a block at a column unless it is open. Tells whether it did. -/
def openBlock (s : Layout) (column : Int) : Bool × Layout :=
  if s.indent < column then
    (true, { s with indent := column, outer := s.indent :: s.outer })
  else (false, s)

/-! ## Candidates -/

/-- Forgets the candidate of this bracket level, unless it must become a key. -/
def dropCandidate (s : Layout) : Option Layout :=
  match s.candidates.get? s.flow with
  | some c => if c.required then none else some { s with candidates := s.candidates.erase s.flow }
  | none => some s

/-- Remembers the next token as a candidate where a key may begin. -/
def noteCandidate (s : Layout) : Option Layout :=
  if s.keysAllowed then do
    let s ← s.dropCandidate
    let c : Candidate := ⟨s.slots.size, s.flow = 0 && s.indent = s.column, s.cursor⟩
    return { s with candidates := s.candidates.put s.flow c }
  else some s

/-- Whether a candidate is out of reach: on an earlier line, or too far away. -/
def isStale (s : Layout) (c : Candidate) : Bool :=
  c.start.line ≠ s.cursor.line || 1024 < s.cursor.index - c.start.index

/-- Forgets candidates out of reach, none of which may be required. -/
def dropStale (s : Layout) : Option Layout :=
  if s.candidates.any fun (_, c) => s.isStale c && c.required then none
  else some { s with candidates := s.candidates.filter fun (_, c) => !s.isStale c }

/-! ## Tokens -/

/-- Passes blanks, comments and ends of lines. Outside brackets a key may begin on a new line. -/
def toToken : Nat → Layout → Layout
  | 0, s => s
  | fuel + 1, s =>
    let cursor := s.cursor.skip (· = ' ')
    let cursor := if cursor.head? = some '#' then cursor.skip (!isBreak ·) else cursor
    if cursor.at? isBreak then
      toToken fuel
        { s with cursor := cursor.nextLine.2, keysAllowed := s.keysAllowed || s.flow = 0 }
    else { s with cursor }

/-- A mark between documents. -/
def boundary (s : Layout) (t : Token) : Option Layout := do
  let s ← (s.unwind (-1)).dropCandidate
  return ((s.allow false).push t).advance 3

def openBracket (s : Layout) (t : Token) : Option Layout := do
  let s ← s.noteCandidate
  return (({ s with flow := s.flow + 1 }.allow true).push t).advance 1

def closeBracket (s : Layout) (t : Token) : Option Layout := do
  let s ← s.dropCandidate
  return (({ s with flow := s.flow - 1 }.allow false).push t).advance 1

/-- Opens a block for an indicator at its start, which must stand where a key may begin. -/
def openFor (s : Layout) (t : Token) : Option Layout :=
  if s.flow ≠ 0 then some s
  else if !s.keysAllowed then none
  else match s.openBlock s.column with
    | (true, s) => some (s.push t)
    | (false, s) => some s

def entryMark (s : Layout) : Option Layout := do
  let s ← s.openFor .sequenceStart
  let s ← (s.allow true).dropCandidate
  return (s.push .entry).advance 1

def keyMark (s : Layout) : Option Layout := do
  let s ← s.openFor .mappingStart
  let s ← (s.allow (s.flow = 0)).dropCandidate
  return (s.push .key).advance 1

/-- A colon: it turns the candidate of this level into a key, or stands for itself. -/
def valueMark (s : Layout) : Option Layout :=
  match s.candidates.get? s.flow with
  | some c =>
    let s := { s with candidates := s.candidates.erase s.flow }
    let (opened, s) := if s.flow = 0 then s.openBlock c.start.column else (false, s)
    -- The key was read before its colon, so its marks go in front of the candidate.
    let front := if opened then [.mappingStart, .key] else [.key]
    let s := { s with slots := s.slots.modify c.slot (front ++ ·) }
    some (((s.allow false).push .value).advance 1)
  | none => do
    let s ← s.openFor .mappingStart
    let s ← (s.allow (s.flow = 0)).dropCandidate
    return (s.push .value).advance 1

def quoted (s : Layout) (quote : Char) : Option Layout := do
  let s ← s.noteCandidate
  let cursor := s.cursor.advance 1
  let (text, cursor) ← quotedText quote (cursor.rest.length + 1) [] cursor
  return { (s.allow false).push (.scalar false (String.ofList text)) with cursor }

def block (s : Layout) (folded : Bool) : Option Layout := do
  let s ← (s.allow true).dropCandidate
  let (text, cursor) ← blockText folded s.indent (s.cursor.advance 1)
  return { s.push (.scalar false (String.ofList text)) with cursor }

/-- Whether a plain scalar can begin with a character that is followed by another. -/
def beginsPlain (flow : Bool) (c : Char) (next : Option Char) : Bool :=
  !(isGap c || "-?:,[]\x7b\x7d#&*!|>'\"%@`".toList.contains c) ||
    (!endsWord next && (c = '-' || (!flow && (c = '?' || c = ':'))))

def plain (s : Layout) : Option Layout := do
  let s ← s.noteCandidate
  let (text, cursor, ended) :=
    plainText (s.flow ≠ 0) (s.indent + 1) (s.cursor.rest.length + 1) [] false s.cursor
  return { (s.allow ended).push (.scalar true (String.ofList text)) with cursor }

/-- Reads the token that begins with the next character. -/
def token (s : Layout) (c : Char) : Option Layout :=
  let next := (s.cursor.rest.drop 1).head?
  let flow := s.flow ≠ 0
  if s.cursor.atBoundary then
    s.boundary (if c = '-' then .documentStart else .documentEnd)
  else match c with
    | '[' => s.openBracket .openList
    | '\x7b' => s.openBracket .openObject
    | ']' => s.closeBracket .closeList
    | '\x7d' => s.closeBracket .closeObject
    | ',' => do
      let s ← (s.allow true).dropCandidate
      return (s.push .separator).advance 1
    | '"' | '\'' => s.quoted c
    | _ =>
      -- These characters also begin plain scalars, unless a word ends behind them.
      if c = '-' && endsWord next then s.entryMark
      else if c = '?' && (flow || endsWord next) then s.keyMark
      else if c = ':' && (flow || endsWord next) then s.valueMark
      else if (c = '|' || c = '>') && !flow then s.block (c = '>')
      else if beginsPlain flow c next then s.plain
      else none

/-- Reads all tokens. Every round passes a character, so there are no more rounds than those. -/
def tokens : Nat → Layout → Option (List Token)
  | 0, _ => none
  | fuel + 1, s => do
    let s ← (toToken (s.cursor.rest.length + 1) s).dropStale
    let s := s.unwind s.column
    match s.cursor.rest with
    | [] =>
      let s ← (s.unwind (-1)).dropCandidate
      return s.slots.toList.flatten
    | c :: _ => tokens fuel (← s.token c)

end Layout

/-- The tokens of a text; none for a text that has no tokens or holds a character that is not
allowed. -/
def tokens? (s : String) : Option (List Token) :=
  -- A byte order mark is no part of the text.
  let chars := match s.toList with
    | '\ufeff' :: rest => rest
    | chars => chars
  if chars.all isAllowed then (Layout.start chars).tokens (chars.length + 2) else none

end Datacube.Yaml
