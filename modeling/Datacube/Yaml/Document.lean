import Datacube.Yaml.Plain
import Datacube.Yaml.Token

/-!
# Documents

A YAML text holds one document: a scalar, a sequence or a mapping. `Value.ofYaml` reads it. The keys
of a mapping are scalars of any kind, and of two equal keys the later value counts.
-/

namespace Datacube.Yaml

/-- Why a text is no document: it is not well formed, or a number in it has no digits. -/
inductive Failure where
  | malformed
  | hollowNumber
  deriving DecidableEq

/-- Puts an entry into a mapping, whose keys are scalars. -/
def putEntry (entries : Entries Value Value) (key v : Value) : Option (Entries Value Value) :=
  if key.isKey then some (entries.put key v) else none

def ofScalar (plain : Bool) (text : String) : Option Value :=
  if plain then if text = "=" || text = "<<" then none else some (plainValue text)
  else some (.text text)

/-- Reads a part that may be left out: nothing stands before the given tokens. -/
def optionalValue (read : List Token → Option (Value × List Token)) (absent : List Token)
    (ts : List Token) : Option (Value × List Token) :=
  match ts with
  | [] => some (.null, [])
  | t :: _ => if absent.contains t then some (.null, ts) else read ts

mutual

/-- A value. `block` tells whether blocks may begin here and `indentless` whether a sequence may
begin without a block of its own. -/
def value? : Nat → Bool → Bool → List Token → Option (Value × List Token)
  | 0, _, _, _ => none
  | fuel + 1, block, indentless, ts =>
    match ts with
    | .entry :: _ => if indentless then sequence? fuel [] ts else none
    | .scalar plain text :: rest => (ofScalar plain text).map (·, rest)
    | .openList :: rest => items? fuel [] rest
    | .openObject :: rest => object? fuel [] rest
    | .sequenceStart :: rest =>
      if !block then none
      else match sequence? fuel [] rest with
        | some (n, .blockEnd :: rest) => some (n, rest)
        | _ => none
    | .mappingStart :: rest => if block then mapping? fuel [] rest else none
    | _ => none

/-- The entries of a sequence, each behind a dash. -/
def sequence? : Nat → List Value → List Token → Option (Value × List Token)
  | 0, _, _ => none
  | fuel + 1, items, ts =>
    match ts with
    | .entry :: rest =>
      match optionalValue (value? fuel true false) [.entry, .key, .value, .blockEnd] rest with
      | some (n, rest) => sequence? fuel (items ++ [n]) rest
      | none => none
    | _ => some (.list items, ts)

/-- The entries of a mapping up to the end of its block. -/
def mapping? : Nat → Entries Value Value → List Token → Option (Value × List Token)
  | 0, _, _ => none
  | fuel + 1, entries, ts =>
    let part (absent : List Token) := optionalValue (value? fuel true true) absent
    let valueOf (key : Value) : List Token → Option (Value × List Token)
      | .value :: rest =>
        match part [.key, .value, .blockEnd] rest with
        | some (n, rest) => (putEntry entries key n).bind fun entries => mapping? fuel entries rest
        | none => none
      | rest => (putEntry entries key .null).bind fun entries => mapping? fuel entries rest
    match ts with
    | .blockEnd :: rest => some (.object entries, rest)
    | .key :: rest => match part [.key, .value, .blockEnd] rest with
      | some (key, rest) => valueOf key rest
      | none => none
    | .value :: _ => valueOf .null ts
    | _ => none

/-- The items of a list in brackets. An item with a key is a mapping of one entry. -/
def items? : Nat → List Value → List Token → Option (Value × List Token)
  | 0, _, _ => none
  | fuel + 1, items, ts =>
    let part (absent : List Token) := optionalValue (value? fuel false false) absent
    let next (n : Value) : List Token → Option (Value × List Token)
      | .separator :: rest => items? fuel (items ++ [n]) rest
      | .closeList :: rest => some (.list (items ++ [n]), rest)
      | _ => none
    match ts with
    | .closeList :: rest => some (.list items, rest)
    | .key :: rest => match part [.value, .separator, .closeList] rest with
      | some (key, .value :: rest) => match part [.separator, .closeList] rest with
        | some (n, rest) => (putEntry [] key n).bind fun entries => next (.object entries) rest
        | none => none
      | some (key, rest) => (putEntry [] key .null).bind fun entries => next (.object entries) rest
      | none => none
    | _ => match value? fuel false false ts with
      | some (n, rest) => next n rest
      | none => none

def object? : Nat → Entries Value Value → List Token → Option (Value × List Token)
  | 0, _, _ => none
  | fuel + 1, entries, ts =>
    let part (absent : List Token) := optionalValue (value? fuel false false) absent
    let next (key n : Value) (rest : List Token) : Option (Value × List Token) :=
      (putEntry entries key n).bind fun entries => match rest with
        | .separator :: rest => object? fuel entries rest
        | .closeObject :: rest => some (.object entries, rest)
        | _ => none
    match ts with
    | .closeObject :: rest => some (.object entries, rest)
    | .key :: rest => match part [.value, .separator, .closeObject] rest with
      | some (key, .value :: rest) => match part [.separator, .closeObject] rest with
        | some (n, rest) => next key n rest
        | none => none
      | some (key, rest) => next key .null rest
      | none => none
    | _ => match value? fuel false false ts with
      | some (key, rest) => next key .null rest
      | none => none

end

/-- The value of a document, and the tokens after it. -/
def document? (ts : List Token) : Option (Value × List Token) :=
  let fuel := 3 * ts.length + 3
  match ts with
  | [] => some (.null, [])
  | .documentStart :: rest =>
    optionalValue (value? fuel true false) [.documentStart, .documentEnd] rest
  | _ => value? fuel true false ts

/-- Whether a token is a number without digits. -/
def Token.isHollow : Token → Bool
  | .scalar true text => isHollowNumber text
  | _ => false

end Yaml

def Value.ofYaml (s : String) : Except Yaml.Failure Value :=
  match Yaml.tokens? s with
  | none => .error .malformed
  | some ts => match Yaml.document? ts with
    | some (v, rest) =>
      if !rest.all (· = .documentEnd) then .error .malformed
      else if ts.any Yaml.Token.isHollow then .error .hollowNumber
      else .ok v
    | none => .error .malformed

end Datacube
