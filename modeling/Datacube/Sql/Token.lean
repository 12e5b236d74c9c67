import Datacube.Dialect

/-!
# SQL tokens

`Lexeme.scan` cuts a SQL text into words, quoted identifiers, numbers, strings and signs. Comments
and blanks separate tokens. A text with an unclosed quote or comment has no tokens. A lexeme keeps
the text it was read from, with the blanks and comments before it, so that the lexemes of a
statement give its text back.
-/

namespace Datacube.Sql
open Text

/-- A token. Words are kept as written, phrases of several words in upper case with one blank
between them; quotes are taken off. -/
inductive Token where
  | word (s : String)
  | quoted (s : String)
  | number (s : String)
  | string (s : String)
  | national (s : String)
  | sign (s : String)
  deriving DecidableEq, Repr

/-- A token with the text it was read from, which begins with the blanks and comments before it. -/
structure Lexeme where
  token : Token
  written : String

/-- Whether the token is the given keyword. Keywords are in upper case; words are compared by their
upper-case form. -/
def Token.isWord (keyword : String) : Token → Bool
  | .word s => upper s == keyword
  | _ => false

/-! ## Character classes of the dialects -/

/-- The quotes that open an identifier, with the ones that close it. -/
def identifierQuotes : Dialect → List (Char × Char)
  | .mysql | .singlestore => [('`', '`')]
  | .sqlserver => [('[', ']'), ('"', '"')]
  | .sqlite => [('"', '"'), ('[', ']'), ('`', '`')]
  | .clickhouse => [('"', '"'), ('`', '`')]
  | _ => [('"', '"')]

def stringQuotes : Dialect → List Char
  | .mysql | .singlestore => ['\'', '"']
  | _ => ['\'']

/-- Whether a backslash in a string takes the next character as it is. -/
def escapesByBackslash : Dialect → Bool
  | .mysql | .singlestore | .clickhouse => true
  | _ => false

/-- Whether a comment inside a comment has an end of its own. -/
def nestsComments : Dialect → Bool
  | .mysql | .singlestore | .sqlite => false
  | _ => true

/-- What opens a comment that ends with the line. -/
def lineComments : Dialect → List String
  | .mysql | .singlestore | .clickhouse => ["--", "#"]
  | _ => ["--"]

def hasDigitWords : Dialect → Bool
  | .mysql | .singlestore | .clickhouse => true
  | _ => false

/-- What opens and closes a comment over several lines. -/
def blockComments : List (String × String) := [("/*", "*/"), ("\x7b#", "#\x7d")]

/-- The signs of more than one character, no sign behind a beginning of it. -/
def longSigns : List String :=
  ["<=>", "<->", "->>", "#>>", "~~~", "~~*", "\x7b\x7b+", "\x7b\x7b-", "+\x7d\x7d", "-\x7d\x7d",
   "||", "::", "<=", ">=", "<>", "!=", "==", ":=", "->", "#>", "&&", "??", "=>", "~~", "~*", "|>",
   "&<", "&>", "\x7b%", "%\x7d"]

/-- The signs of one character; every other character belongs to a word. -/
def isSign (c : Char) : Bool := "()[]\x7b\x7d&^:,-.|+;/\\*%!><=?@#~'\"`".toList.contains c

def inWord (c : Char) : Bool := !isBlank c && !isSign c

/-- The phrases of two words that form one. -/
def phrases : List (String × String) :=
  [("GROUP", "BY"), ("ORDER", "BY"), ("SORT", "BY"), ("CLUSTER", "BY"), ("DISTRIBUTE", "BY"),
   ("PARTITION", "BY"), ("PARTITIONED", "BY"), ("CONNECT", "BY"), ("START", "WITH"),
   ("GROUPING", "SETS"), ("SIMILAR", "TO"), ("CHARACTER", "SET"), ("PRIMARY", "KEY"),
   ("FOREIGN", "KEY"), ("DOUBLE", "PRECISION"), ("CHAR", "VARYING"), ("CHARACTER", "VARYING")]

/-! ## Parts of a text -/

/-- The characters up to the closing quote, which stands for itself when doubled, and what
follows. -/
def quotedBody? (closing : Char) (backslash : Bool) : List Char → Option (List Char × List Char)
  | [] => none
  | '\\' :: c :: rest =>
    if backslash then
      (quotedBody? closing backslash rest).map fun (body, after) => (c :: body, after)
    else if closing = '\\' then some ([], c :: rest)
    else (quotedBody? closing backslash (c :: rest)).map fun (body, after) => ('\\' :: body, after)
  | c :: rest =>
    if c = closing then
      match rest with
      | d :: after =>
        if d = closing then
          (quotedBody? closing backslash after).map fun (body, after) => (closing :: body, after)
        else some ([], rest)
      | [] => some ([], [])
    else (quotedBody? closing backslash rest).map fun (body, after) => (c :: body, after)

/-- The rest of a number: digits, one point and one exponent, whose sign needs a digit. -/
def numberRest (point exponent signed : Bool) : List Char → List Char × List Char
  | [] => ([], [])
  | c :: rest =>
    let go (point exponent signed : Bool) :=
      let (run, after) := numberRest point exponent signed rest
      (c :: run, after)
    if c.isDigit then go point exponent signed
    else if c = '.' && !point then go true exponent signed
    else if (c = '-' || c = '+') && exponent && !signed && rest.head?.any Char.isDigit then
      go point exponent true
    else if (c = 'e' || c = 'E') && !exponent then go point true signed
    else ([], c :: rest)

/-- What follows a block comment after its opening; none when it has no end. -/
def afterComment? (nests : Bool) (opening closing : List Char) :
    Nat → Nat → List Char → Option (List Char)
  | 0, _, _ => none
  | _, _, [] => none
  | fuel + 1, depth, c :: rest =>
    match dropStart? closing (c :: rest), dropStart? opening (c :: rest) with
    | some after, _ =>
      if depth ≤ 1 then some after
      else afterComment? nests opening closing fuel (depth - 1) after
    | none, some after =>
      if nests then afterComment? nests opening closing fuel (depth + 1) after
      else afterComment? nests opening closing fuel depth rest
    | none, none => afterComment? nests opening closing fuel depth rest

/-- What follows the comment at the beginning of a text. Nothing when there is no comment, and
nothing inside when it has no end. -/
def comment? (d : Dialect) (chars : List Char) : Option (Option (List Char)) :=
  if startsHint then none
  else match (lineComments d).findSome? fun s => dropStart? s.toList chars with
    | some rest => some (some (rest.dropWhile fun c => c != '\n' && c != '\r'))
    | none => blockComments.findSome? fun (opening, closing) =>
      (dropStart? opening.toList chars).map fun rest =>
        afterComment? (nestsComments d) opening.toList closing.toList (rest.length + 1) 1 rest
where
  /-- A hint is no comment. -/
  startsHint : Bool := (dropStart? "/*+".toList chars).isSome

/-- The word at the beginning of a text, and what follows. Two words that form a phrase are one. -/
def wordAt (chars : List Char) : Token × List Char :=
  let (first, rest) := (String.ofList (chars.takeWhile inWord), chars.dropWhile inWord)
  let next := rest.dropWhile isBlank
  let phrase := (upper first, upper (String.ofList (next.takeWhile inWord)))
  if phrases.contains phrase then (.word (phrase.1 ++ " " ++ phrase.2), next.dropWhile inWord)
  else (.word first, rest)

namespace Token

/-- The string at the beginning of a text. A letter N before it makes it a national one. -/
def string? (d : Dialect) (chars : List Char) : Option (Option (Token × List Char)) :=
  match chars with
  | c :: rest =>
    if (stringQuotes d).contains c then
      some ((body c rest).map fun (s, after) => (.string s, after))
    else match rest with
      | q :: rest =>
        if (c = 'N' || c = 'n') && (stringQuotes d).contains q then
          some ((body q rest).map fun (s, after) => (.national s, after))
        else none
      | [] => none
  | [] => none
where
  /-- The text up to the closing quote. -/
  body (quote : Char) (rest : List Char) : Option (String × List Char) :=
    (quotedBody? quote (escapesByBackslash d) rest).map fun (s, after) => (String.ofList s, after)

/-- The number at the beginning of a text. Where words may begin with a digit, letters behind it
make it a word. -/
def numeral (d : Dialect) (c : Char) (rest : List Char) : Token × List Char :=
  let (run, after) := numberRest false false false rest
  if hasDigitWords d && after.head?.any (fun c => c.isAlpha || c = '_') then
    (.word (String.ofList (c :: run ++ after.takeWhile inWord)), after.dropWhile inWord)
  else (.number (String.ofList (c :: run)), after)

/-- The token at the beginning of a text, none for a comment or a blank, and what follows. -/
def next? (d : Dialect) : List Char → Option (Option Token × List Char)
  | [] => none
  | c :: rest =>
    if isBlank c then some (none, rest)
    else match comment? d (c :: rest), string? d (c :: rest) with
      | some after, _ => after.map (none, ·)
      | none, some read => read.map fun (t, after) => (some t, after)
      | none, none =>
        if c.isDigit then
          let (t, after) := numeral d c rest
          some (some t, after)
        else match (identifierQuotes d).lookup c with
          | some closing => (quotedBody? closing false rest).map fun (body, after) =>
            (some (.quoted (String.ofList body)), after)
          | none =>
            match longSigns.findSome? fun s => (dropStart? s.toList (c :: rest)).map (s, ·) with
            | some (s, after) => some (some (.sign s), after)
            | none =>
              if isSign c then some (some (.sign c.toString), rest)
              else
                let (t, after) := wordAt (c :: rest)
                some (some t, after)

end Token

namespace Lexeme

/-- The lexemes of a text behind what was skipped before it. Every step consumes a character, so
the length bounds their number. -/
def scanWithin (d : Dialect) : Nat → List Char → List Char → Option (List Lexeme)
  | 0, _, _ => some []
  | fuel + 1, skipped, chars =>
    if chars.isEmpty then some []
    else match Token.next? d chars with
      | none => none
      | some (token, rest) =>
        let read := skipped ++ chars.take (chars.length - rest.length)
        match token with
        | none => scanWithin d fuel read rest
        | some token => (scanWithin d fuel [] rest).map (⟨token, String.ofList read⟩ :: ·)

/-- The lexemes of a text; none when a quote or a comment is not closed. -/
def scan (d : Dialect) (s : String) : Option (List Lexeme) :=
  scanWithin d (s.length + 1) [] s.toList

end Lexeme
end Datacube.Sql
