import Datacube.Text.Pattern
import Mathlib.Data.List.TakeWhile

/-!
# Names that begin as a pattern does

A text without a closed bracket, followed by a run of any characters, describes every name that
begins with the text: each of its characters describes itself.
-/

namespace Datacube.Text
variable {s : String} {chars : List Char}

/-- The part of a pattern for a character that opens no closed bracket. -/
def plainPart (c : Char) : PatternPart :=
  if c = '*' then .anyRun else if c = '?' then .anyOne else .literal c

/-- No bracket of the text is closed, for want of an opening or of a closing one. -/
def Unbracketed (chars : List Char) : Prop := '[' ∉ chars ∨ ']' ∉ chars

theorem Unbracketed.tail {c : Char} (plain : Unbracketed (c :: chars)) : Unbracketed chars :=
  plain.imp (fun absent member => absent (List.mem_cons_of_mem c member))
    fun absent member => absent (List.mem_cons_of_mem c member)

theorem bracketBody?_unclosed (unclosed : ']' ∉ chars) : bracketBody? chars = none := by
  unfold bracketBody?
  split
  rename_i mark rest marked
  have unclosed : ']' ∉ rest := by
    split at marked <;> obtain ⟨-, rfl⟩ := Prod.mk.inj marked
    · exact fun member => unclosed (List.mem_cons_of_mem _ member)
    · exact unclosed
  have whole : rest.dropWhile (· ≠ ']') = [] := by
    rw [List.dropWhile_eq_nil_iff]
    intro c member
    simpa using ne_of_mem_of_not_mem member unclosed
  split
  rename_i first rest opened
  split at opened
  · exact absurd List.mem_cons_self unclosed
  · obtain ⟨-, rfl⟩ := Prod.mk.inj opened
    simp only [whole]

theorem patternParts_plain {fuel : Nat} (plain : Unbracketed chars)
    (enough : chars.length < fuel) :
    patternParts fuel (chars ++ ['*']) = chars.map plainPart ++ [.anyRun] := by
  induction chars generalizing fuel with
  | nil =>
      obtain ⟨fuel, rfl⟩ := Nat.exists_eq_add_of_lt enough
      cases fuel <;> simp [patternParts]
  | cons c rest ih =>
      obtain ⟨fuel, rfl⟩ : ∃ n, fuel = n + 1 := Nat.exists_eq_succ_of_ne_zero (by omega)
      have later := ih plain.tail (Nat.lt_of_succ_lt_succ enough)
      rw [List.cons_append, patternParts, later, List.map_cons, List.cons_append, plainPart]
      split_ifs with run one bracket <;> try rfl
      have unclosed : ']' ∉ rest ++ ['*'] := by
        rcases plain with unopened | unclosed
        · exact absurd (bracket ▸ List.mem_cons_self) unopened
        · simpa using fun member => unclosed (List.mem_cons_of_mem c member)
      rw [bracketBody?_unclosed unclosed]

theorem somewhere_self {test : List Char → Bool} (holds : test chars = true) :
    somewhere test chars = true := by
  cases chars with
  | nil => exact holds
  | cons c rest => simp [somewhere, holds]

/-- A run of any characters can take the character that stands for it. -/
theorem somewhere_tail {test : List Char → Bool} {c : Char} (holds : test chars = true) :
    somewhere test (c :: chars) = true := by
  simp [somewhere, somewhere_self holds]

theorem somewhere_end {test : List Char → Bool} (holds : test [] = true) :
    somewhere test chars = true := by
  induction chars with
  | nil => exact holds
  | cons c rest ih => simp [somewhere, ih]

theorem describes_plain (chars name : List Char) :
    describes (chars.map plainPart ++ [.anyRun]) (chars ++ name) = true := by
  induction chars with
  | nil => exact somewhere_end rfl
  | cons c rest ih =>
      rw [List.map_cons, List.cons_append, List.cons_append, plainPart]
      split_ifs with run one
      · exact somewhere_tail ih
      · simpa [describes, PatternPart.describes] using ih
      · simpa [describes, PatternPart.describes] using ih

theorem fits_append (plain : Unbracketed s.toList) (name : String) :
    fits (s ++ "*") (s ++ name) = true := by
  have parts : patternParts (s ++ "*").length (s.toList ++ ['*']) =
      s.toList.map plainPart ++ [.anyRun] := patternParts_plain plain (by simp [String.length])
  rw [fits, String.toList_append, String.toList_append]
  exact parts ▸ describes_plain s.toList name.toList

end Datacube.Text
