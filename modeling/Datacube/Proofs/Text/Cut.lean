import Datacube.Text.Cut
import Mathlib.Data.List.Basic

/-!
# What is cut off a text

A text that holds the mark is cut where the mark stands first, and a text without the mark neither
is cut nor begins with anything that holds it.
-/

namespace Datacube.Text
variable {c : Char} {s : String}

theorem cutFirst?_eq_none {chars : List Char} : cutFirst? c chars = none ↔ c ∉ chars := by
  induction chars with
  | nil => simp [cutFirst?]
  | cons x rest ih =>
      rw [cutFirst?]
      split
      · rename_i here
        simp [here]
      · rename_i apart
        rw [Option.map_eq_none_iff, ih, List.mem_cons, not_or, and_iff_right (Ne.symm apart)]

theorem cutFirst?_ok {chars before after : List Char}
    (cut : cutFirst? c chars = some (before, after)) :
    chars = before ++ c :: after ∧ c ∉ before := by
  induction chars generalizing before with
  | nil => cases cut
  | cons x rest ih =>
      rw [cutFirst?] at cut
      split at cut
      · rename_i here
        obtain ⟨rfl, rfl⟩ := Prod.mk.inj (Option.some.inj cut)
        exact ⟨by rw [here, List.nil_append], List.not_mem_nil⟩
      · rename_i apart
        obtain ⟨⟨start, rest'⟩, found, same⟩ := Option.map_eq_some_iff.mp cut
        obtain ⟨rfl, rfl⟩ := Prod.mk.inj same
        obtain ⟨split, absent⟩ := ih found
        rw [split, List.mem_cons, not_or]
        exact ⟨rfl, Ne.symm apart, absent⟩

theorem cutFirst?_append {before after : List Char} (absent : c ∉ before) :
    cutFirst? c (before ++ c :: after) = some (before, after) := by
  induction before with
  | nil => simp [cutFirst?]
  | cons x rest ih =>
      rw [List.mem_cons, not_or] at absent
      rw [List.cons_append, cutFirst?, if_neg (Ne.symm absent.1), ih absent.2]
      rfl

/-- What stands before the first mark and what comes after it are unique. -/
theorem first_unique {before before' after after' : List Char} (absent : c ∉ before)
    (absent' : c ∉ before') (same : before ++ c :: after = before' ++ c :: after') :
    before = before' ∧ after = after' := by
  have cut : cutFirst? c (before ++ c :: after) = some (before, after) := cutFirst?_append absent
  rw [same, cutFirst?_append absent', Option.some.injEq, Prod.mk.injEq] at cut
  exact ⟨cut.1.symm, cut.2.symm⟩

theorem splitFirst?_eq_none : splitFirst? c s = none ↔ c ∉ s.toList := by
  rw [splitFirst?, Option.map_eq_none_iff, cutFirst?_eq_none]

/-- A text is the two parts with the mark between them, which stands nowhere before. -/
theorem splitFirst?_ok {before after : String} (cut : splitFirst? c s = some (before, after)) :
    s.toList = before.toList ++ c :: after.toList ∧ c ∉ before.toList := by
  obtain ⟨⟨start, rest⟩, found, same⟩ := Option.map_eq_some_iff.mp cut
  obtain ⟨rfl, rfl⟩ := Prod.mk.inj same
  rw [String.toList_ofList, String.toList_ofList]
  exact cutFirst?_ok found

theorem splitFirst?_append {before after : String} (absent : c ∉ before.toList)
    (whole : s.toList = before.toList ++ c :: after.toList) :
    splitFirst? c s = some (before, after) := by
  simp only [splitFirst?, whole, cutFirst?_append absent, Option.map_some, String.ofList_toList]

/-! ## The last mark -/

theorem cutLast?_append {before after : List Char} (absent : c ∉ after) :
    cutLast? c (before ++ c :: after) = some (before, after) := by
  have turned : (before ++ c :: after).reverse = after.reverse ++ c :: before.reverse := by simp
  have absent : c ∉ after.reverse := fun held => absent (List.mem_reverse.mp held)
  rw [cutLast?, turned, cutFirst?_append absent]
  simp

theorem cutLast?_ok {chars before after : List Char}
    (cut : cutLast? c chars = some (before, after)) :
    chars = before ++ c :: after ∧ c ∉ after := by
  obtain ⟨⟨later, earlier⟩, found, same⟩ := Option.map_eq_some_iff.mp cut
  obtain ⟨rfl, rfl⟩ := Prod.mk.inj same
  obtain ⟨whole, absent⟩ := cutFirst?_ok found
  refine ⟨?_, fun held => absent (List.mem_reverse.mp held)⟩
  simpa using congrArg List.reverse whole

theorem splitLast?_ok {before after : String} (cut : splitLast? c s = some (before, after)) :
    s.toList = before.toList ++ c :: after.toList ∧ c ∉ after.toList := by
  obtain ⟨⟨front, rest⟩, found, same⟩ := Option.map_eq_some_iff.mp cut
  obtain ⟨rfl, rfl⟩ := Prod.mk.inj same
  rw [String.toList_ofList, String.toList_ofList]
  exact cutLast?_ok found

theorem splitLast?_append {before after : String} (absent : c ∉ after.toList)
    (whole : s.toList = before.toList ++ c :: after.toList) :
    splitLast? c s = some (before, after) := by
  simp only [splitLast?, whole, cutLast?_append absent, Option.map_some, String.ofList_toList]

/-! ## Beginnings -/

theorem prefix_of_dropStart? {beginning chars rest : List Char}
    (dropped : dropStart? beginning chars = some rest) : chars = beginning ++ rest := by
  induction beginning generalizing chars with
  | nil => exact Option.some.inj dropped
  | cons x beginning ih =>
      cases chars with
      | nil => cases dropped
      | cons y chars =>
          rw [dropStart?] at dropped
          split at dropped
          · rename_i same
            rw [ih dropped, same, List.cons_append]
          · cases dropped

theorem dropStart?_append (beginning rest : List Char) :
    dropStart? beginning (beginning ++ rest) = some rest := by
  induction beginning with
  | nil => rfl
  | cons x beginning ih => rw [List.cons_append, dropStart?, if_pos rfl, ih]

theorem dropStart?_of_absent {beginning : String} (held : c ∈ beginning.toList)
    (absent : c ∉ s.toList) : dropStart? beginning.toList s.toList = none := by
  cases dropped : dropStart? beginning.toList s.toList with
  | none => rfl
  | some rest =>
      rw [prefix_of_dropStart? dropped] at absent
      exact absurd (List.mem_append_left _ held) absent

theorem withoutStart_of_absent {beginning : String} (held : c ∈ beginning.toList)
    (absent : c ∉ s.toList) : withoutStart beginning s = s := by
  rw [withoutStart, dropStart?_of_absent held absent]

end Datacube.Text
