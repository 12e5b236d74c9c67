import Datacube.Settings.Assignments
import Datacube.Settings.Basic

/-!
# Settings from the environment

Every setting can be given by an environment variable of its name behind `SLICE_`, in any case, or
by a line of a file with such assignments. The environment wins over the file. A list is given as
JSON.
-/

namespace Datacube.Settings
open Text

/-- The value that a variable gives a setting: a list as JSON, everything else as a text. -/
def valueOf (name text : String) : Outcome Value :=
  if name == "catalog_paths" then
    match Value.ofJson? text with
    | some v => .ok v
    | none => fail .badSettings
  else .ok (.text text)

/-- The values that variables give to settings; a null gives none. -/
def ofVariables (environment : Entries String String) : Outcome (Entries Value Value) :=
  let known : Entries String String := .ofPairs (environment.map fun (name, v) => (lower name, v))
  names.foldlM (fun (found : Entries Value Value) name => do
    match known.get? ("slice_" ++ name) with
    | none => return found
    | some text =>
      let v ← valueOf name text
      return if v.isNull then found else found.put name v) []

def ofEnvironment (environment : Entries String String) (file : Option String) :
    Outcome Settings := do
  let found ← ofVariables environment
  let more ← ofVariables ((file.map (Assignments.read environment)).getD [])
  ofFields (more.putAll found)

end Datacube.Settings
