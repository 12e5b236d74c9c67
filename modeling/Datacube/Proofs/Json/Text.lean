import Datacube.Json.Reader
import Datacube.Json.Writer
import Mathlib.Order.Basic

/-!
# Texts written and read back

Every character of a text, escaped or not, is read back as it was.
-/

namespace Datacube.Json
variable {rest acc : List Char} {fuel : Nat}

/-! ## Code units -/

theorem hexValue?_hexDigit {d : Nat} (small : d < 16) : hexValue? (hexDigit d) = some d := by
  decide +revert

theorem unit?_hexDigits {n : Nat} (small : n < 0x10000) :
    unit? (hexDigits 4 n ++ rest) = some (n, rest) := by
  have digit (i : Nat) : hexValue? (hexDigit (n / Nat.pow 16 i % 16)) =
      some (n / Nat.pow 16 i % 16) := hexValue?_hexDigit (Nat.mod_lt _ (by decide))
  have value : ((n / Nat.pow 16 3 % 16 * 16 + n / Nat.pow 16 2 % 16) * 16 +
      n / Nat.pow 16 1 % 16) * 16 + n / Nat.pow 16 0 % 16 = n := by
    change ((n / 4096 % 16 * 16 + n / 256 % 16) * 16 + n / 16 % 16) * 16 + n / 1 % 16 = n
    omega
  change unit? (_ :: _ :: _ :: _ :: rest) = _
  simp only [unit?, digit, Option.bind_eq_bind, Option.bind_some, value]

theorem not_surrogate (c : Char) : c.toNat < 0xd800 ∨ 0xe000 ≤ c.toNat := by
  have valid := c.valid
  simp only [UInt32.isValidChar, Nat.isValidChar] at valid
  rw [Char.toNat]
  omega

theorem toNat_lt (c : Char) : c.toNat < 0x110000 := by
  have valid := c.valid
  simp only [UInt32.isValidChar, Nat.isValidChar] at valid
  rw [Char.toNat]
  omega

theorem paired_single (c : Char) : paired c.toNat rest = (c, rest) := by
  have whole := not_surrogate c
  have high : (decide (0xd800 ≤ c.toNat) && decide (c.toNat < 0xdc00)) = false := by simp; omega
  have low : (decide (0xdc00 ≤ c.toNat) && decide (c.toNat < 0xe000)) = false := by simp; omega
  simp only [paired, high, low, Bool.false_eq_true, if_false, Char.ofNat_toNat]

/-- A character beyond the first plane comes as two units. -/
theorem paired_double {c : Char} (beyond : 0x10000 ≤ c.toNat) :
    paired (0xd800 + (c.toNat - 0x10000) / 0x400)
      (unitEscape (0xdc00 + (c.toNat - 0x10000) % 0x400) ++ rest) = (c, rest) := by
  have limit := toNat_lt c
  have second := @unit?_hexDigits rest (0xdc00 + (c.toNat - 0x10000) % 0x400) (by omega)
  obtain ⟨high, upper⟩ : ∃ high, (c.toNat - 0x10000) / 0x400 = high := ⟨_, rfl⟩
  obtain ⟨low, lower⟩ : ∃ low, (c.toNat - 0x10000) % 0x400 = low := ⟨_, rfl⟩
  rw [lower] at second
  rw [upper, lower]
  have isHigh : (decide (0xd800 ≤ 0xd800 + high) && decide (0xd800 + high < 0xdc00)) = true := by
    simp; omega
  have isLow : (decide (0xdc00 ≤ 0xdc00 + low) && decide (0xdc00 + low < 0xe000)) = true := by
    simp; omega
  have whole : 0x10000 + (0xd800 + high - 0xd800) * 0x400 + (0xdc00 + low - 0xdc00) = c.toNat := by
    omega
  simp only [paired, isHigh, unitEscape, List.cons_append, second, isLow, if_true, whole,
    Char.ofNat_toNat]

/-! ## Texts -/

/-- How a character is written inside a string: after a backslash, as it is, or as code units. -/
inductive Written (c : Char) : List Char → Prop where
  | escaped {e : Char} (named : escaped? e = some c) (apart : e ≠ 'u') : Written c ['\\', e]
  | plain (quote : c ≠ '"') (slash : c ≠ '\\') (visible : 0x20 ≤ c.toNat) : Written c [c]
  | unit (first : c.toNat < 0x10000) : Written c (unitEscape c.toNat)
  | units (beyond : 0x10000 ≤ c.toNat) :
      Written c (unitEscape (0xd800 + (c.toNat - 0x10000) / 0x400) ++
        unitEscape (0xdc00 + (c.toNat - 0x10000) % 0x400))

theorem written_stringChar (c : Char) : Written c (stringChar c) := by
  by_cases named : c ∈ ['"', '\\', '\n', '\r', '\t', '\x08', '\x0c']
  · simp only [List.mem_cons, List.not_mem_nil, or_false] at named
    rcases named with rfl | rfl | rfl | rfl | rfl | rfl | rfl <;>
      exact .escaped rfl (by decide)
  · simp only [List.mem_cons, List.not_mem_nil, or_false, not_or] at named
    obtain ⟨quote, slash, line, back, tab, bell, page⟩ := named
    rw [stringChar, if_neg quote, if_neg slash, if_neg line, if_neg back, if_neg tab, if_neg bell,
      if_neg page]
    split
    · rename_i visible
      simp only [Bool.and_eq_true, decide_eq_true_eq] at visible
      exact .plain quote slash visible.1
    · split
      · rename_i first
        exact .unit first
      · rename_i beyond
        exact .units (Nat.le_of_not_lt beyond)

theorem stringBody?_unit {n : Nat} (small : n < 0x10000) :
    stringBody? (fuel + 1) acc (unitEscape n ++ rest) =
      stringBody? fuel ((paired n rest).1 :: acc) (paired n rest).2 := by
  rw [unitEscape, stringBody?.eq_def]
  simp only [List.cons_append, unit?_hexDigits small]
  rfl

theorem stringBody?_written {c : Char} {chars : List Char} (written : Written c chars) :
    stringBody? (fuel + 1) acc (chars ++ rest) = stringBody? fuel (c :: acc) rest := by
  cases written with
  | @escaped e named apart =>
      have slash : '\\' ≠ '"' := by decide
      rw [stringBody?.eq_def]
      simp only [List.cons_append, List.nil_append, slash, if_false, if_true]
      rw [named]
  | plain quote slash visible =>
      have printed : ¬ c.toNat < 0x20 := Nat.not_lt.mpr visible
      rw [List.singleton_append, stringBody?.eq_def]
      simp only [quote, slash, printed, if_false]
  | unit first => rw [stringBody?_unit first, paired_single]
  | units beyond =>
      have limit := toNat_lt c
      rw [List.append_assoc, stringBody?_unit (by omega), paired_double beyond]

theorem stringBody?_chars {chars : List Char} (enough : chars.length < fuel) :
    stringBody? fuel acc (chars.flatMap stringChar ++ '"' :: rest) =
      some (String.ofList (acc.reverse ++ chars), rest) := by
  induction chars generalizing fuel acc with
  | nil =>
      obtain ⟨fuel, rfl⟩ : ∃ n, fuel = n + 1 := Nat.exists_eq_succ_of_ne_zero (by omega)
      simp [stringBody?]
  | cons c chars ih =>
      obtain ⟨fuel, rfl⟩ : ∃ n, fuel = n + 1 := Nat.exists_eq_succ_of_ne_zero (by omega)
      rw [List.flatMap_cons, List.append_assoc, stringBody?_written (written_stringChar c),
        ih (Nat.lt_of_succ_lt_succ enough), List.reverse_cons, List.append_assoc]
      rfl

theorem Written.nonempty {c : Char} {chars : List Char} (written : Written c chars) :
    1 ≤ chars.length := by
  cases written <;> simp [unitEscape]

theorem length_le_escaped (chars : List Char) :
    chars.length ≤ (chars.flatMap stringChar).length := by
  induction chars with
  | nil => exact Nat.le_refl _
  | cons c chars ih =>
      have here := (written_stringChar c).nonempty
      rw [List.flatMap_cons, List.length_append, List.length_cons]
      omega

/-- A text is read back after its opening quote, with the fuel that its length gives. -/
theorem stringBody?_text (s : String) :
    stringBody? ((s.toList.flatMap stringChar ++ '"' :: rest).length + 1) []
      (s.toList.flatMap stringChar ++ '"' :: rest) = some (s, rest) := by
  have length := length_le_escaped s.toList
  rw [stringBody?_chars (by rw [List.length_append]; omega), List.reverse_nil, List.nil_append,
    String.ofList_toList]

end Datacube.Json
