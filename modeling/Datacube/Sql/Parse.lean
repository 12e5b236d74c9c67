import Datacube.Sql.Function

/-!
# Reading tokens

A parser reads something from the beginning of the tokens and leaves the rest; it fails on malformed
ones. A parser of something that may be absent gives none where it is absent, and leaves the tokens
as they are. Repetition is bounded by the number of tokens, of which every round takes one.
-/

namespace Datacube.Sql
open Text

abbrev Parse := StateT (List Token) Option

namespace Parse

/-! ## Single tokens -/

/-- The next token, which stays. -/
def next : Parse (Option Token) := return (← get).head?

/-- Takes the next token. -/
def skip : Parse Unit := modify (·.drop 1)

def take? (test : Token → Bool) : Parse Bool := do
  if (← next).any test then
    skip
    return true
  else return false

def sign? (s : String) : Parse Bool := take? (· == .sign s)

def word? (keyword : String) : Parse Bool := take? (·.isWord keyword)

/-- Whether the keywords come next; they stay. -/
def comes (keywords : List String) : Parse Bool := do
  let tokens := (← get).take keywords.length
  return tokens.length == keywords.length &&
    (tokens.zip keywords).all fun (t, keyword) => t.isWord keyword

/-- Takes several keywords if all of them come next. -/
def words? (keywords : List String) : Parse Bool := do
  if ← comes keywords then
    modify (·.drop keywords.length)
    return true
  else return false

/-- Takes a sign, which must come next. -/
def expect (s : String) : Parse Unit := do
  if !(← sign? s) then failure

/-- Takes a keyword, which must come next. -/
def expectWord (keyword : String) : Parse Unit := do
  if !(← word? keyword) then failure

/-- The canonical sign of an operator, if one of the table comes next. Words stand in the table in
upper case. -/
def operator? (table : List (String × String)) : Parse (Option String) := do
  let found := match ← next with
    | some (.sign s) => table.lookup s
    | some (.word s) => table.lookup (upper s)
    | _ => none
  if found.isSome then skip
  return found

/-! ## Combinations -/

/-- What a parser reads, which must not be absent. -/
def required {α : Type} (p : Parse (Option α)) : Parse α := do
  match ← p with
  | some a => return a
  | none => failure

/-- What a parser reads, or none and all tokens where it fails. -/
def tried {α : Type} (p : Parse α) : Parse (Option α) := fun tokens =>
  match p tokens with
  | some (a, rest) => some (some a, rest)
  | none => some (none, tokens)

/-- Repeats a step as long as it gives something, at most so often. -/
def iterateWithin {α : Type} (step : α → Parse (Option α)) : Nat → α → Parse α
  | 0, a => return a
  | fuel + 1, a => do
    match ← step a with
    | some b => iterateWithin step fuel b
    | none => return a

/-- Repeats a step as long as it gives something. -/
def iterate {α : Type} (step : α → Parse (Option α)) (a : α) : Parse α := do
  iterateWithin step (← get).length a

/-- The places of a list with commas between them; a place may be empty. -/
def places {α : Type} (item : Parse (Option α)) : Parse (List (Option α)) := do
  let first ← item
  iterate (fun items => do
    if ← sign? "," then return some (items ++ [← item]) else return none) [first]

/-- A list with commas between its items; empty places are left out. -/
def listed {α : Type} (item : Parse (Option α)) : Parse (List α) :=
  return (← places item).filterMap id

/-- A list in parentheses, of which the first has been taken. -/
def enclosed {α : Type} (item : Parse (Option α)) : Parse (List α) := do
  let items ← listed item
  expect ")"
  return items

/-! ## Names -/

/-- A name: a word that is not reserved or a quoted identifier. -/
def name? (excluded : List String) : Parse (Option Ident) := do
  match ← next with
  | some (.word s) =>
    if namesColumn (upper s) && !excluded.contains (upper s) then
      skip
      return some ⟨s, false⟩
    else return none
  | some (.quoted s) =>
    skip
    return some ⟨s, true⟩
  | _ => return none

/-- A name where nothing else can stand: any word but two, a number or a text. -/
def anyName? : Parse (Option Ident) := do
  let found : Option Ident := match ← next with
    | some (.word s) => if ["SELECT", "NOT"].contains (upper s) then none else some ⟨s, false⟩
    | some (.quoted s) | some (.string s) => some ⟨s, true⟩
    | some (.number s) | some (.national s) => some ⟨s, false⟩
    | _ => none
  if found.isSome then skip
  return found

/-- The mark of a value that is supplied later, with the tokens behind it: a question mark, a colon
before a name or a number, or an at sign before a name, a literal or another mark. -/
def markOf? : List Token → Option (Expr × List Token)
  | .sign "?" :: rest => some (.ident ⟨"?", false⟩, rest)
  | .sign ":" :: .number n :: rest => some (.ident ⟨":" ++ n, false⟩, rest)
  | .sign ":" :: .word s :: rest =>
    if namesColumn (upper s) then some (.ident ⟨":" ++ s, false⟩, rest) else none
  | .sign "@" :: .quoted s :: rest => some (.unary "@" (.ident ⟨s, true⟩), rest)
  | .sign "@" :: .string s :: rest => some (.unary "@" (.string s), rest)
  | .sign "@" :: .number n :: rest => some (.unary "@" (.number n), rest)
  | .sign "@" :: .word s :: rest => match upper s with
    | "SELECT" | "NOT" => none
    | "NULL" => some (.unary "@" .null, rest)
    | "TRUE" => some (.unary "@" (.boolean true), rest)
    | "FALSE" => some (.unary "@" (.boolean false), rest)
    | _ => some (.ident ⟨"@" ++ s, false⟩, rest)
  | .sign "@" :: rest => (markOf? rest).map fun (e, rest) => (.unary "@" e, rest)
  | _ => none

/-- The mark of a value that is supplied later, if one follows. -/
def mark? : Parse (Option Expr) := do
  match markOf? (← get) with
  | some (e, rest) =>
    set rest
    return some e
  | none => return none

/-! ## Types -/

def size? : Parse (Option String) := do
  let found := match ← next with
    | some (.number s) | some (.word s) => some s
    | _ => none
  if found.isSome then skip
  return found

/-- The sizes of a type in parentheses, as text. -/
def sizes : Parse String := do
  if ← sign? "(" then
    let sizes ← enclosed size?
    return "(" ++ join ", " sizes ++ ")"
  else return ""

def type (d : Dialect) : Parse String := do
  match ← next with
  | some (.word s) =>
    skip
    let sizes ← sizes
    let key := upper s
    if key == "TIMESTAMP" || key == "TIME" then
      if ← words? ["WITH", "TIME", "ZONE"] then return typeName d (key ++ "TZ") ++ sizes
      let _ ← words? ["WITHOUT", "TIME", "ZONE"]
    return typeName d s ++ sizes
  | some (.quoted s) =>
    skip
    return d.quote s
  | _ => failure

end Parse
end Datacube.Sql
