import Datacube.Text.Case
import Datacube.Text.Classes

/-!
# Cutting text

References are written with separators: `provider:table.column`, `column as alias`. The functions
here cut a text at the first, the last or every occurrence of a character, strip blanks, and find
a phrase in any letter case.
-/

namespace Datacube.Text

/-- The characters before and after the first `c`. -/
def cutFirst? (c : Char) : List Char → Option (List Char × List Char)
  | [] => none
  | x :: rest =>
    if x = c then some ([], rest)
    else (cutFirst? c rest).map fun (before, after) => (x :: before, after)

/-- The characters before and after the last `c`. -/
def cutLast? (c : Char) (chars : List Char) : Option (List Char × List Char) :=
  (cutFirst? c chars.reverse).map fun (after, before) => (before.reverse, after.reverse)

/-- The parts between the occurrences of `c`; one part more than there are occurrences. -/
def cutAll (c : Char) : List Char → List (List Char)
  | [] => [[]]
  | x :: rest =>
    if x = c then [] :: cutAll c rest
    else match cutAll c rest with
      | [] => [[x]]
      | part :: parts => (x :: part) :: parts

theorem cutAll_ne_nil (c : Char) (chars : List Char) : cutAll c chars ≠ [] := by
  cases chars with
  | nil => simp [cutAll]
  | cons x rest => simp only [cutAll]; split <;> (try split) <;> simp

/-- The parts before and after the first `c` of a text. -/
def splitFirst? (c : Char) (s : String) : Option (String × String) :=
  (cutFirst? c s.toList).map fun (before, after) => (String.ofList before, String.ofList after)

/-- The parts before and after the last `c` of a text. -/
def splitLast? (c : Char) (s : String) : Option (String × String) :=
  (cutLast? c s.toList).map fun (before, after) => (String.ofList before, String.ofList after)

/-- All parts of a text between the occurrences of `c`. -/
def splitAll (c : Char) (s : String) : List String := (cutAll c s.toList).map String.ofList

def substitute (c d : Char) (s : String) : String :=
  String.ofList (s.toList.map fun x => if x = c then d else x)

/-- Writes every occurrence of `c` twice. -/
def doubled (c : Char) (s : String) : String :=
  String.ofList (s.toList.flatMap fun x => if x = c then [x, x] else [x])

/-- The characters without the blanks at both ends. -/
def stripChars (chars : List Char) : List Char :=
  ((chars.dropWhile isBlank).reverse.dropWhile isBlank).reverse

/-- A text without the blanks at both ends. -/
def strip (s : String) : String := String.ofList (stripChars s.toList)

/-- What remains of `chars` after the given beginning. -/
def dropStart? : List Char → List Char → Option (List Char)
  | [], chars => some chars
  | _ :: _, [] => none
  | x :: beginning, y :: chars => if x = y then dropStart? beginning chars else none

/-- A text without the given beginning, or the text itself when it begins otherwise. -/
def withoutStart (beginning s : String) : String :=
  match dropStart? beginning.toList s.toList with
  | some rest => String.ofList rest
  | none => s

def startsWith (beginning s : String) : Bool := (dropStart? beginning.toList s.toList).isSome

/-- The position of the first occurrence of `phrase`. -/
def indexOf? (phrase : List Char) : List Char → Option Nat
  | [] => if phrase.isEmpty then some 0 else none
  | x :: rest =>
    if (dropStart? phrase (x :: rest)).isSome then some 0 else (indexOf? phrase rest).map (· + 1)

def join (separator : String) (parts : List String) : String := separator.intercalate parts

end Datacube.Text
