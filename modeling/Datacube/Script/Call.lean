import Datacube.Value.Reading

/-!
# Scripts

A script declares or changes something by a list of calls, each a name with arguments. Documents
carry scripts as lists, so tables, dimensions, metrics and queries can be declared in data. A call
may also be a question, which is answered by a value and changes nothing.
-/

namespace Datacube
open Text

namespace Value

/-- The value of a field; null for what has no such field. -/
def member (v : Value) (key : String) : Value := (v.field? key).getD .null

/-- The items of a list; none for what is no list. -/
def elements : Value → List Value
  | .list items => items
  | _ => []

/-- The fields of an object; none for what is no object. -/
def members : Value → Entries Value Value
  | .object fields => fields
  | _ => []

def adding (v : Value) (fields : List (String × Value)) : Value :=
  .object (v.members ++ fields.map fun f => (.text f.1, f.2))

/-- A text, or none for everything else. -/
def asText? : Value → Option String
  | .text s => some s
  | _ => none

/-- A text, or another one for everything else. -/
def textOr (v : Value) (other : String) : String := v.asText?.getD other

/-- The value of a field, or another one where there is no such field. -/
def memberOr (v : Value) (key : String) (other : Value) : Value := (v.field? key).getD other

/-- Whether a value counts as present; null stands for the given answer. -/
def truth (v : Value) (default : Bool) : Bool := if v.isNull then default else v.isTrue

end Value

/-- A call of a script: a name with positional and named arguments. -/
structure Call where
  name : String
  arguments : List Value
  named : Entries Value Value

namespace Call

/-- Reads a call. A last argument that is an object under `$kw` holds the named arguments. -/
def ofValue (v : Value) : Call :=
  match v with
  | .list (name :: rest) => match rest.getLast? with
    | some (.object [(.text "$kw", .object named)]) => ⟨name.textOr "", rest.dropLast, named⟩
    | _ => ⟨name.textOr "", rest, []⟩
  | _ => ⟨"", [], []⟩

def argument? (c : Call) (i : Nat) (name : String) : Option Value :=
  c.arguments[i]?.or (Value.named? c.named name)

/-- The argument, or another value where it is not given. -/
def argumentOr (c : Call) (i : Nat) (name : String) (other : Value) : Value :=
  (c.argument? i name).getD other

/-- The argument, or null. -/
def optional (c : Call) (i : Nat) (name : String) : Value := c.argumentOr i name .null

/-- An argument that must be given. -/
def required (c : Call) (i : Nat) (name : String) : Outcome Value :=
  match c.argument? i name with
  | some v => .ok v
  | none => fail .wrongType

/-- An argument that must be given, as a text. -/
def label (c : Call) (i : Nat) (name : String) : Outcome String := do
  return (← c.required i name).toText

/-- An argument that must be a text. -/
def text (c : Call) (i : Nat) (name : String) : Outcome String := do (← c.required i name).onlyText

/-- An argument that must be a key. -/
def key (c : Call) (i : Nat) (name : String) : Outcome Value := do
  let v ← c.required i name
  if v.isKey then return v else fail .wrongType

/-- The answer to a call that is not understood. -/
def unknown {α : Type} : Outcome α := fail .noSuchMember

/-- The call that the arguments of a call make from a position on. -/
def inner (c : Call) (i : Nat) : Call :=
  ⟨(c.arguments[i]?.getD .null).textOr "", c.arguments.drop (i + 1), c.named⟩

end Call

def Value.calls (v : Value) : List Call := (v.member "calls").elements.map Call.ofValue

/-- Takes the calls of a script in turn; an unknown one is refused. -/
def runScript {α : Type} (step : α → Call → Option (Outcome α)) (start : α) (calls : List Call) :
    Outcome α :=
  calls.foldlM (fun a c => (step a c).getD Call.unknown) start

end Datacube
