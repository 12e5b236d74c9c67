import Datacube.Proofs.Text.Case
import Datacube.Proofs.Text.Cut
import Mathlib.Data.List.Infix

/-!
# Phrases in lower case

A blank divides a text into words that are put in lower case one by one. Of all letters only the
dotted capital I takes two characters in lower case, so that what comes behind it stands further
back there than in the text.
-/

namespace Datacube.Text
variable {phrase chars rest : List Char} {i : Nat}

/-! ## Positions -/

theorem dropStart?_isSome : (dropStart? phrase chars).isSome = true ↔ phrase <+: chars := by
  rw [Option.isSome_iff_exists]
  constructor
  · rintro ⟨rest, dropped⟩
    exact ⟨rest, (prefix_of_dropStart? dropped).symm⟩
  · rintro ⟨rest, rfl⟩
    exact ⟨rest, dropStart?_append phrase rest⟩

theorem indexOf?_begins (begins : phrase <+: chars) : indexOf? phrase chars = some 0 := by
  cases chars with
  | nil =>
      rw [List.prefix_nil] at begins
      rw [begins]
      rfl
  | cons x rest => rw [indexOf?, if_pos (dropStart?_isSome.mpr begins)]

theorem indexOf?_cons {x : Char} (apart : ¬ phrase <+: x :: chars) :
    indexOf? phrase (x :: chars) = (indexOf? phrase chars).map (· + 1) := by
  rw [indexOf?, if_neg (mt dropStart?_isSome.mp apart)]

theorem indexOf?_eq_none : indexOf? phrase chars = none ↔ ¬ phrase <:+: chars := by
  induction chars with
  | nil => cases phrase <;> simp [indexOf?]
  | cons x rest ih =>
      rw [List.infix_cons_iff, not_or]
      by_cases begins : phrase <+: x :: rest
      · simp [indexOf?_begins begins, begins]
      · rw [indexOf?_cons begins, Option.map_eq_none_iff, ih, and_iff_right begins]

/-- Where the phrase stands it ends within the text. -/
theorem indexOf?_bound (found : indexOf? phrase chars = some i) :
    i + phrase.length ≤ chars.length := by
  induction chars generalizing i with
  | nil =>
      rw [indexOf?] at found
      split at found
      · rename_i empty
        rw [List.isEmpty_iff.mp empty, ← Option.some.inj found]
        rfl
      · cases found
  | cons x rest ih =>
      by_cases begins : phrase <+: x :: rest
      · rw [indexOf?_begins begins, Option.some.injEq] at found
        rw [← found, Nat.zero_add]
        exact begins.length_le
      · rw [indexOf?_cons begins] at found
        obtain ⟨j, later, rfl⟩ := Option.map_eq_some_iff.mp found
        have := ih later
        rw [List.length_cons]
        omega

/-! ## Blanks -/

theorem stripChars_sublist (chars : List Char) : (stripChars chars).Sublist chars := by
  have front := (List.dropWhile_sublist (l := chars) isBlank)
  have back := List.dropWhile_sublist (l := (chars.dropWhile isBlank).reverse) isBlank
  exact (List.reverse_sublist.mp (by rwa [stripChars, List.reverse_reverse])).trans front

/-- The first and the last character of a text are no blanks. -/
theorem stripChars_eq_self_iff : stripChars chars = chars ↔
    (∀ c ∈ chars.head?, isBlank c = false) ∧ ∀ c ∈ chars.getLast?, isBlank c = false := by
  have ends : ∀ l : List Char, l.dropWhile isBlank = l ↔ ∀ c ∈ l.head?, isBlank c = false := by
    intro l
    cases l with
    | nil => simp
    | cons c l =>
        rw [List.dropWhile_cons]
        split
        · rename_i blank
          have apart : l.dropWhile isBlank ≠ c :: l := fun same => by
            have le := (List.dropWhile_sublist (l := l) isBlank).length_le
            rw [same, List.length_cons] at le
            omega
          simp [apart, blank]
        · rename_i solid
          simpa using solid
  rw [← ends, ← List.head?_reverse, ← ends]
  constructor
  · intro same
    have whole : chars.dropWhile isBlank = chars := by
      refine (List.dropWhile_sublist isBlank).eq_of_length_le ?_
      calc chars.length = (stripChars chars).length := by rw [same]
        _ = ((chars.dropWhile isBlank).reverse.dropWhile isBlank).length := List.length_reverse
        _ ≤ (chars.dropWhile isBlank).reverse.length := (List.dropWhile_sublist isBlank).length_le
        _ = (chars.dropWhile isBlank).length := List.length_reverse
    rw [stripChars, whole] at same
    exact ⟨whole, List.reverse_eq_iff.mp same⟩
  · rintro ⟨front, back⟩
    rw [stripChars, front, back, List.reverse_reverse]

/-- Texts without blanks around them make one. -/
theorem stripChars_append (filled : chars ≠ []) (filled' : rest ≠ [])
    (stripped : stripChars chars = chars) (stripped' : stripChars rest = rest)
    (between : List Char) :
    stripChars (chars ++ between ++ rest) = chars ++ between ++ rest := by
  rw [stripChars_eq_self_iff] at stripped stripped' ⊢
  rw [List.append_assoc, List.head?_append_of_ne_nil _ filled, ← List.append_assoc,
    List.getLast?_append_of_ne_nil _ filled']
  exact ⟨stripped.1, stripped'.2⟩

/-! ## Words -/

theorem reachesCased_divided (chars rest : List Char) :
    reachesCased (chars ++ ' ' :: rest) = reachesCased chars := by
  induction chars with
  | nil => rfl
  | cons x chars ih =>
      simp only [reachesCased, List.cons_append, List.dropWhile_cons] at ih ⊢
      split
      · exact ih
      · rfl

theorem lowerBehind_divided (front before chars : List Char) :
    lowerBehind (front ++ ' ' :: before) chars = lowerBehind front chars := by
  induction chars generalizing front with
  | nil => rfl
  | cons c rest ih =>
      have later := ih (c :: front)
      rw [List.cons_append] at later
      rw [lowerBehind, lowerBehind, later, lowerSigma, lowerSigma, endsCased, endsCased,
        reachesCased_divided]

theorem lowerBehind_append (before chars rest : List Char) :
    lowerBehind before (chars ++ ' ' :: rest) =
      lowerBehind before chars ++ ' ' :: lowerBehind [] rest := by
  induction chars generalizing before with
  | nil =>
      have behind : lowerBehind (' ' :: before) rest = lowerBehind [] rest :=
        lowerBehind_divided [] before rest
      rw [List.nil_append, lowerBehind.eq_2, behind]
      rfl
  | cons c chars ih =>
      rw [List.cons_append, lowerBehind, lowerBehind, ih, lowerSigma, lowerSigma, endsCased,
        endsCased, reachesCased_divided, List.append_assoc]

/-- A blank divides a text into words that are put in lower case one by one. -/
theorem lower_divided (s t : String) : lower (s ++ " " ++ t) = lower s ++ " " ++ lower t := by
  refine String.toList_injective ?_
  have blank : " ".toList = [' '] := rfl
  simp only [lower, String.toList_append, String.toList_ofList, blank, List.append_assoc,
    List.singleton_append, lowerBehind_append]

/-! ## Lengths -/

theorem length_lowerChar (c : Char) :
    (lowerChar c).length = if c = 'İ' then 2 else 1 := by
  rw [lowerChar]
  split
  · rename_i ascii
    rw [if_neg (by rintro rfl; exact absurd ascii (by decide))]
    rfl
  · split
    · rename_i dotted
      have same : c = 'İ' := Char.toNat_inj.mp dotted
      rw [if_pos same]
      rfl
    · rename_i undotted
      rw [if_neg (by rintro rfl; exact undotted rfl)]
      rfl

theorem length_lowerBehind (before chars : List Char) :
    (lowerBehind before chars).length = chars.length + chars.count 'İ' := by
  induction chars generalizing before with
  | nil => rfl
  | cons c rest ih =>
      rw [lowerBehind, List.length_append, ih, List.length_cons, List.count_cons]
      by_cases sigma : c = 'Σ'
      · rw [if_pos sigma, sigma]
        simp only [List.length_singleton]
        have : ('Σ' == 'İ') = false := by decide
        rw [this]
        simp only [Bool.false_eq_true, if_false]
        omega
      · rw [if_neg sigma, length_lowerChar]
        by_cases dotted : c = 'İ'
        · simp only [dotted, beq_self_eq_true, if_true]
          omega
        · simp only [dotted, beq_eq_false_iff_ne.mpr dotted, if_false, Bool.false_eq_true]
          omega

/-- Only the dotted capital I grows in lower case. -/
theorem length_lower (s : String) : (lower s).toList.length = s.length + s.toList.count 'İ' := by
  rw [lower, String.toList_ofList, length_lowerBehind, String.length_toList]

end Datacube.Text
