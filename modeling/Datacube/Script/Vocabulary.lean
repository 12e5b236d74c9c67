import Datacube.Script.Call

/-!
# What calls are understood

A vocabulary lists the calls that something understands, each with a signature that names its
arguments, and its fields, which are read and never called. A call is checked against it before
anything is done: an unknown name is no member, and arguments that do not fit are of the wrong type.
-/

namespace Datacube

/-- The arguments of a call: those that must be given, those that may be, and those that may be
given by name only. `more` allows further ones, and `moreNamed` further names. -/
structure Signature where
  required : List String
  optional : List String
  byName : List String
  more : Bool
  moreNamed : Bool

namespace Signature

def exactly (names : List String) : Signature := ⟨names, [], [], false, false⟩

/-- The arguments of a list, and others that may follow. -/
def upTo (names optional : List String) : Signature := ⟨names, optional, [], false, false⟩

def anything : Signature := ⟨[], [], [], true, true⟩

def any : Signature := ⟨[], [], [], true, false⟩

/-- The names of the arguments that have a position. -/
def positions (s : Signature) : List String := s.required ++ s.optional

/-- Whether a name may be given beside arguments at the first positions. -/
def takesName (s : Signature) (given : Nat) (name : String) : Bool :=
  (s.positions.drop given ++ s.byName).contains name ||
    (s.moreNamed && name != "self" && !s.positions.contains name)

/-- Whether a call fits: no argument too many, none missing, none given twice. -/
def fits (s : Signature) (c : Call) : Bool :=
  let given := c.arguments.length
  (s.more || given ≤ s.positions.length) &&
    c.named.keys.all (fun name => s.takesName given name.toText) &&
    (s.required.drop given).all fun name => c.named.keys.any (·.isText name)

end Signature

/-- What something understands: its calls with their signatures, and its fields. -/
structure Vocabulary where
  calls : List (String × Signature)
  fields : List String

namespace Vocabulary

/-- A vocabulary of calls without arguments. -/
def questions (names : List String) : List (String × Signature) :=
  names.map fun name => (name, .exactly [])

/-- A vocabulary of calls that look at their arguments themselves. -/
def unchecked (names : List String) : List (String × Signature) :=
  names.map fun name => (name, .anything)

def extend (v w : Vocabulary) : Vocabulary := ⟨v.calls ++ w.calls, v.fields ++ w.fields⟩

/-- Checks a call. Everything shows itself; the length is asked of everything, and only what is
counted has one. -/
def check (v : Vocabulary) (c : Call) : Outcome Unit :=
  match v.calls.lookup c.name with
  | some signature => if signature.fits c then .ok () else fail .wrongType
  | none =>
    if c.name == "__repr__" then .ok ()
    else if v.fields.contains c.name || c.name == "__len__" then fail .wrongType
    else fail .noSuchMember

/-- What a call makes, after it is checked. -/
def checked {α : Type} (v : Vocabulary) (c : Call) (out : Option (Outcome α)) :
    Option (Outcome α) :=
  out.map fun out => do
    v.check c
    out

end Vocabulary
end Datacube
