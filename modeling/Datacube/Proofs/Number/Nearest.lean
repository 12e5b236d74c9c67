import Datacube.Number.Reading
import Datacube.Proofs.Number.Magnitude
import Datacube.Proofs.Number.Packing

/-!
# Reading a decimal as the nearest float

Multiplying by a power of ten and dividing by one are exact up to the last rounding. So a decimal is
read as the float in whose rounding interval it lies.
-/

namespace Datacube.Number
open Float.Model Float.Model.UnpackedFloat

def Decimals.value (d : Decimals) : ℚ := d.coefficient * (10 : ℚ) ^ d.exponent

variable {v : ℚ} {m₁ m₂ M : Nat} {e₁ e₂ E : Int}

/-! ## Arithmetic -/

theorem mul_eq (positive₁ : 0 < m₁) (positive₂ : 0 < m₂) (large : 2 ^ 52 ≤ m₁ * m₂)
    (placed : Placed M E) (rounds : Rounds ((m₁ : ℚ) * 2 ^ e₁ * (m₂ * 2 ^ e₂)) M E) :
    UnpackedFloat.mul Format.binary64 (.finite .positive m₁ e₁ positive₁)
      (.finite .positive m₂ e₂ positive₂) = .finite .positive M E placed.positive := by
  have enough := (Nat.le_log2 (Nat.mul_pos positive₁ positive₂).ne').mpr large
  refine roundWithAccuracy_eq placed rounds ?_ (.inl enough) _
  have product : (m₁ : ℚ) * 2 ^ e₁ * (m₂ * 2 ^ e₂) = (m₁ * m₂ : Nat) * 2 ^ (e₁ + e₂) := by
    rw [zpow_add₀ two_ne_zero]
    push_cast
    ring
  rw [product, mul_div_cancel_right₀ _ (by positivity), sub_self]
  rfl

theorem describes_fraction {num den : Nat} (less : num < den) :
    Describes (accuracyOfFraction num den) ((num : ℚ) / den) := by
  have positive : (0 : ℚ) < den := by exact_mod_cast Nat.zero_lt_of_lt less
  rw [accuracyOfFraction]
  split_ifs with zero
  · simp [Describes, zero]
  · have order := (compare_iff (2 * num) den).mp rfl
    have above : (0 : ℚ) < num := by exact_mod_cast Nat.pos_of_ne_zero zero
    have below : (num : ℚ) < den := by exact_mod_cast less
    revert order
    cases compare (2 * num) den with
    | lt =>
        intro order
        have order : (2 : ℚ) * num < den := by exact_mod_cast order
        refine ⟨by positivity, ?_⟩
        rw [div_lt_div_iff₀ positive two_pos]
        linarith
    | eq =>
        intro order
        have order : (2 : ℚ) * num = den := by exact_mod_cast order
        change _ = _
        rw [div_eq_div_iff positive.ne' two_ne_zero]
        linarith
    | gt =>
        intro order
        have order : (den : ℚ) < 2 * num := by exact_mod_cast order
        refine ⟨?_, (div_lt_one positive).mpr below⟩
        rw [div_lt_div_iff₀ two_pos positive]
        linarith

/-- A quotient is computed to so many bits that its mantissa is full or its exponent the least. -/
theorem divCore_eq (positive₁ : 0 < m₁) (positive₂ : 0 < m₂) :
    ∃ m e accuracy, divCore Format.binary64 m₁ e₁ m₂ e₂ = (m, e, accuracy) ∧
      Describes accuracy ((m₁ : ℚ) * 2 ^ e₁ / (m₂ * 2 ^ e₂) / 2 ^ e - m) ∧
      (52 ≤ m.log2 ∨ e ≤ -1074) := by
  obtain ⟨e, target⟩ : ∃ e, e = min (e₁ - e₂)
    (max ((m₁.log2 : Int) + 1 + e₁ - (m₂.log2 + 1 + e₂) - 53) (-1074)) := ⟨_, rfl⟩
  obtain ⟨n, amount⟩ := Int.le.dest (show e ≤ e₁ - e₂ by omega)
  refine ⟨(m₁ <<< n) / m₂, e, accuracyOfFraction ((m₁ <<< n) % m₂) m₂, ?_, ?_, ?_⟩
  · have shift : (e₁ - e₂ - e).toNat = n := by omega
    rw [divCore, targetExponent_max, totalExponent, totalExponent, ← target]
    simp only [shift]
  · have places : (2 : ℚ) ^ e₁ = 2 ^ n * 2 ^ e * 2 ^ e₂ := by
      rw [← zpow_natCast, ← zpow_add₀ two_ne_zero, ← zpow_add₀ two_ne_zero]
      congr 1
      omega
    have divisor : (0 : ℚ) < m₂ := by exact_mod_cast positive₂
    have division : (m₁ : ℚ) * 2 ^ n = m₂ * (m₁ <<< n / m₂ : Nat) + (m₁ <<< n % m₂ : Nat) := by
      exact_mod_cast (Nat.shiftLeft_eq m₁ n).symm.trans (Nat.div_add_mod (m₁ <<< n) m₂).symm
    have rest : (m₁ : ℚ) * 2 ^ e₁ / (m₂ * 2 ^ e₂) / 2 ^ e - (m₁ <<< n / m₂ : Nat) =
        (m₁ <<< n % m₂ : Nat) / m₂ := by
      rw [places, ← mul_assoc, ← mul_assoc, division]
      field_simp
      ring
    rw [rest]
    exact describes_fraction (Nat.mod_lt _ positive₂)
  · by_cases least : e ≤ -1074
    · exact .inr least
    · left
      have first := Nat.log2_self_le positive₁.ne'
      have last := Nat.lt_log2_self (n := m₂)
      have full : 2 ^ 52 ≤ m₁ <<< n / m₂ := by
        rw [Nat.le_div_iff_mul_le positive₂, Nat.shiftLeft_eq]
        calc 2 ^ 52 * m₂ ≤ 2 ^ 52 * 2 ^ (m₂.log2 + 1) := by gcongr
          _ = 2 ^ (52 + (m₂.log2 + 1)) := (pow_add 2 _ _).symm
          _ ≤ 2 ^ (m₁.log2 + n) := Nat.pow_le_pow_right two_pos (by omega)
          _ = 2 ^ m₁.log2 * 2 ^ n := pow_add 2 _ _
          _ ≤ m₁ * 2 ^ n := by gcongr
      exact (Nat.le_log2 (by omega)).mpr full

theorem div_eq (positive₁ : 0 < m₁) (positive₂ : 0 < m₂) (placed : Placed M E)
    (rounds : Rounds ((m₁ : ℚ) * 2 ^ e₁ / (m₂ * 2 ^ e₂)) M E) :
    UnpackedFloat.div Format.binary64 (.finite .positive m₁ e₁ positive₁)
      (.finite .positive m₂ e₂ positive₂) = .finite .positive M E placed.positive := by
  obtain ⟨m, e, accuracy, computed, described, enough⟩ :=
    @divCore_eq m₁ m₂ e₁ e₂ positive₁ positive₂
  rw [UnpackedFloat.div]
  simp only [computed]
  exact roundWithAccuracy_eq placed rounds described enough _

/-! ## Exact floats -/

/-- A float with a full mantissa has exactly the value. -/
def Represents (x : Float) (v : ℚ) : Prop :=
  ∃ m e, ∃ canonical : Canonical m e, x = packed (.finite .positive m e canonical.positive) ∧
    (m : ℚ) * 2 ^ e = v ∧ 2 ^ 52 ≤ m

section Represents
variable {x y : Float} {w : ℚ} (first : Represents x v) (second : Represents y w)
  (placed : Placed M E)
include first second

theorem Represents.mul (rounds : Rounds (v * w) M E) :
    x * y = packed (.finite .positive M E placed.positive) := by
  obtain ⟨m₁, e₁, canonical₁, rfl, rfl, full₁⟩ := first
  obtain ⟨m₂, e₂, canonical₂, rfl, rfl, full₂⟩ := second
  change packed (UnpackedFloat.mul Format.binary64 (packed _).toModel.unpack
    (packed _).toModel.unpack) = _
  rw [unpack_packed canonical₁, unpack_packed canonical₂,
    mul_eq _ _ (by nlinarith) placed rounds]

theorem Represents.div (rounds : Rounds (v / w) M E) :
    x / y = packed (.finite .positive M E placed.positive) := by
  obtain ⟨m₁, e₁, canonical₁, rfl, rfl, -⟩ := first
  obtain ⟨m₂, e₂, canonical₂, rfl, rfl, -⟩ := second
  change packed (UnpackedFloat.div Format.binary64 (packed _).toModel.unpack
    (packed _).toModel.unpack) = _
  rw [unpack_packed canonical₁, unpack_packed canonical₂, div_eq _ _ placed rounds]

end Represents

theorem rounds_self (M : Nat) (E : Int) : Rounds (M * 2 ^ E) M E :=
  rounds_of_near (by rw [sub_self, abs_zero]; positivity)

/-- A whole number that takes no more bits than a mantissa has fills one after a shift. -/
theorem exists_full {n : Nat} (positive : 0 < n) (small : n < 2 ^ 53) :
    ∃ M E, Canonical M E ∧ (M : ℚ) * 2 ^ E = n ∧ 2 ^ 52 ≤ M := by
  have bits := (Nat.log2_lt positive.ne').mpr small
  obtain ⟨k, more⟩ := Nat.le.dest (Nat.le_of_lt_succ bits)
  have full : 2 ^ 52 ≤ n * 2 ^ k := by
    rw [← more, pow_add]
    gcongr
    exact Nat.log2_self_le positive.ne'
  have less : n * 2 ^ k < 2 ^ 53 := by
    have := Nat.lt_log2_self (n := n)
    calc n * 2 ^ k < 2 ^ (n.log2 + 1) * 2 ^ k := by gcongr
      _ = 2 ^ (n.log2 + k + 1) := by ring
      _ = 2 ^ 53 := by rw [more]
  refine ⟨n * 2 ^ k, -k, ⟨by omega, less, by omega, by omega, .inl full⟩, ?_, full⟩
  rw [zpow_neg, zpow_natCast]
  push_cast
  field_simp

/-- A whole number that takes no more bits than a mantissa has is a float. -/
theorem toFloat_whole {n : Nat} (positive : 0 < n) (small : n < 2 ^ 53) :
    Represents n.toUInt64.toFloat n := by
  obtain ⟨M, E, canonical, value, full⟩ := exists_full positive small
  refine ⟨M, E, canonical, ?_, value, full⟩
  have same : n.toUInt64.toNat = n := by
    rw [Nat.toUInt64, UInt64.toNat_ofNat', Nat.mod_eq_of_lt]
    omega
  have order : compare (n : Int) 0 = .gt := compare_gt_iff_gt.mpr (by omega)
  have rounds : Rounds (n * 2 ^ (0 : Int)) M E := by
    rw [zpow_zero, mul_one, ← value]
    exact rounds_self M E
  change packed (UnpackedFloat.normalize Format.binary64 (n.toUInt64.toNat : Int) 0 .positive) = _
  rw [same, UnpackedFloat.normalize, order]
  exact congrArg packed (round_eq positive.ne' canonical.placed rounds .positive)

/-- The bits by which a power of five falls short of a full mantissa. -/
def powerShift (k : Nat) : Nat := 52 - (5 ^ k).log2

theorem powersOfTen_bits : ∀ k, (listed : k < Float.exactlyRepresentablePowersOfTen.size) →
    Float.exactlyRepresentablePowersOfTen[k].toBits.toNat =
      bitsOf false (5 ^ k * 2 ^ powerShift k) (k - powerShift k : Int) := by
  decide +kernel

theorem powersOfTen_full : ∀ k < 23,
    2 ^ 52 ≤ 5 ^ k * 2 ^ powerShift k ∧ 5 ^ k * 2 ^ powerShift k < 2 ^ 53 := by
  decide +kernel

/-- Powers of ten up to the twenty-second are floats. -/
theorem powersOfTen_eq {k : Nat} (listed : k < Float.exactlyRepresentablePowersOfTen.size) :
    Represents Float.exactlyRepresentablePowersOfTen[k] (10 ^ k) := by
  have small : k < 23 := listed
  obtain ⟨full, less⟩ := powersOfTen_full k small
  have short : powerShift k ≤ 52 := Nat.sub_le _ _
  have canonical : Canonical (5 ^ k * 2 ^ powerShift k) (k - powerShift k) :=
    ⟨by omega, less, by omega, by omega, .inl full⟩
  refine ⟨_, _, canonical, eq_of_bits ?_, ?_, full⟩
  · rw [toBits_packed canonical]
    exact powersOfTen_bits k listed
  · have ten : (10 : ℚ) = 5 * 2 := by norm_num
    rw [zpow_sub₀ two_ne_zero, zpow_natCast, zpow_natCast, ten, mul_pow]
    push_cast
    field_simp

/-! ## Decimals -/

theorem ofScientific_unpacked {c : Nat} {e : Int} (nonzero : c ≠ 0) (upper : e ≤ 400)
    (lower : -401 - (c.log2 : Int) ≤ e) (placed : Placed M E)
    (rounds : Rounds (c * (10 : ℚ) ^ e) M E) :
    UnpackedFloat.ofScientific Format.binary64 c e =
      .finite .positive M E placed.positive := by
  have bits : Format.binary64.mantissaBits = 53 := by decide
  have width : (2 : Int) ^ Format.binary64.exponentBits = 2048 := by decide
  rw [UnpackedFloat.ofScientific, dif_neg nonzero, width, if_neg (by omega), if_neg (by omega)]
  split_ifs with up
  · obtain ⟨n, rfl⟩ := Int.eq_ofNat_of_zero_le up
    have large : 2 ^ 52 ≤ c <<< 53 * 10 ^ n := by
      rw [Nat.shiftLeft_eq]
      have one : 1 ≤ 10 ^ n := Nat.one_le_pow _ _ (by decide)
      have positive := Nat.pos_of_ne_zero nonzero
      nlinarith
    have product : ((c <<< 53 : Nat) : ℚ) * 2 ^ (-53 : Int) * ((10 ^ n : Nat) * 2 ^ (0 : Int)) =
        c * (10 : ℚ) ^ (n : Int) := by
      have cancel : (2 : ℚ) ^ 53 * 2 ^ (-53 : Int) = 1 := by norm_num
      rw [Nat.shiftLeft_eq, zpow_zero, mul_one, zpow_natCast, Nat.cast_mul, Nat.cast_pow,
        Nat.cast_pow, mul_assoc (c : ℚ)]
      push_cast [cancel]
      rw [mul_one]
    rw [← product] at rounds
    simp only [bits, Int.toNat_natCast]
    exact mul_eq _ _ large placed rounds
  · obtain ⟨n, same⟩ := Int.eq_ofNat_of_zero_le (show 0 ≤ -e by omega)
    obtain rfl : e = -(n : Int) := by omega
    have quotient : (c : ℚ) * 2 ^ (0 : Int) / ((10 ^ n : Nat) * 2 ^ (0 : Int)) =
        c * (10 : ℚ) ^ (-(n : Int)) := by
      rw [zpow_neg, zpow_natCast]
      push_cast
      field_simp
    simp only [neg_neg, Int.toNat_natCast]
    rw [← quotient] at rounds
    exact div_eq _ _ placed rounds

/-- The scientific notation of a float is read as the nearest float. -/
theorem ofScientific_eq {c n : Nat} {down : Bool} {e : Int} (nonzero : c ≠ 0)
    (scale : e = if down then -(n : Int) else n) (upper : e ≤ 400)
    (lower : -401 - (c.log2 : Int) ≤ e) (placed : Placed M E)
    (rounds : Rounds (c * (10 : ℚ) ^ e) M E) :
    Float.ofScientific c down n = packed (.finite .positive M E placed.positive) := by
  rw [Float.ofScientific]
  split_ifs with fast divided
  · obtain ⟨small, few⟩ := fast
    rw [scale, if_pos divided, zpow_neg, ← div_eq_mul_inv, zpow_natCast] at rounds
    exact (toFloat_whole (Nat.pos_of_ne_zero nonzero) small).div
      (powersOfTen_eq (Nat.lt_succ_of_le few)) placed rounds
  · obtain ⟨small, few⟩ := fast
    rw [scale, if_neg divided, zpow_natCast] at rounds
    exact (toFloat_whole (Nat.pos_of_ne_zero nonzero) small).mul
      (powersOfTen_eq (Nat.lt_succ_of_le few)) placed rounds
  · rename_i divided
    obtain rfl : e = Int.negOfNat n := by rw [scale, if_pos divided, Int.negOfNat_eq]; rfl
    exact congrArg packed (ofScientific_unpacked nonzero upper lower placed rounds)
  · rename_i multiplied
    obtain rfl : e = Int.ofNat n := by rw [scale, if_neg multiplied]; rfl
    exact congrArg packed (ofScientific_unpacked nonzero upper lower placed rounds)

/-! ## Size -/

theorem Rounds.positive (placed : Placed M E) (rounds : Rounds v M E) :
    2 ^ (E - 1) ≤ v := by
  have unit : (0 : ℚ) < 2 ^ E := by positivity
  have one : (1 : ℚ) ≤ M := by exact_mod_cast placed.positive
  calc (2 : ℚ) ^ (E - 1) = 1 / 2 * 2 ^ E := by rw [zpow_sub₀ two_ne_zero]; ring
    _ ≤ (M - 1 / 2) * 2 ^ E := by gcongr; linarith
    _ ≤ v := rounds.low

theorem value_bounds {d : Decimals} (nonzero : d.coefficient ≠ 0) :
    (10 : ℚ) ^ (d.exponent + digitCount d.coefficient - 1) ≤ d.value ∧
      d.value < 10 ^ (d.exponent + digitCount d.coefficient) := by
  obtain ⟨low, high⟩ := digitCount_bounds nonzero
  have positive : 1 ≤ digitCount d.coefficient := Nat.length_toDigits_pos
  have ten : (10 : ℚ) ≠ 0 := by norm_num
  rw [Decimals.value, add_sub_assoc, zpow_add₀ ten, zpow_add₀ ten, ← Nat.cast_pred positive,
    zpow_natCast, zpow_natCast, mul_comm (d.coefficient : ℚ)]
  constructor <;> gcongr <;> exact_mod_cast ‹_›

/-- A decimal that is rounded to a float has its point where floats can have it. -/
theorem size_bounds {d : Decimals} (nonzero : d.coefficient ≠ 0) (canonical : Canonical M E)
    (rounds : Rounds d.value M E) : -400 ≤ d.exponent + digitCount d.coefficient ∧
      d.exponent + digitCount d.coefficient ≤ 400 := by
  obtain ⟨low, high⟩ := value_bounds nonzero
  have below := rounds.below canonical.placed
  have above := rounds.positive canonical.placed
  have least := canonical.least
  have greatest := canonical.greatest
  have one : (1 : ℚ) < 10 := by norm_num
  constructor
  · have order : (10 : ℚ) ^ (-359 : Int) ≤ 2 ^ (E - 1) :=
      (Scaled.ten_zpow_neg_bounds 359).2.trans (zpow_le_zpow_right₀ (by norm_num) (by omega))
    have := (order.trans above).trans_lt high
    rw [zpow_lt_zpow_iff_right₀ one] at this
    omega
  · have order : (2 : ℚ) ^ (E + 53) ≤ 10 ^ (342 : Int) :=
      (zpow_le_zpow_right₀ (by norm_num) (by omega)).trans (Scaled.ten_zpow_bounds 342).1
    have := (low.trans_lt below).trans_le order
    rw [zpow_lt_zpow_iff_right₀ one] at this
    omega

/-- Every decimal in the rounding interval of a float is read as that float. -/
theorem toFloat_eq {d : Decimals} (canonical : Canonical M E) (rounds : Rounds d.value M E) :
    d.toFloat = packed (.finite .positive M E canonical.positive) := by
  have positive := (zpow_pos two_pos _).trans_le (rounds.positive canonical.placed)
  have nonzero : d.coefficient ≠ 0 := by
    intro zero
    simp [Decimals.value, zero] at positive
  obtain ⟨low, high⟩ := size_bounds nonzero canonical rounds
  have short : digitCount d.coefficient ≤ d.coefficient.log2 + 1 := by
    rw [digitCount, Nat.length_toDigits_le_iff (by decide) (by omega)]
    exact Nat.lt_log2_self.trans_le (Nat.pow_le_pow_left (by decide) _)
  have some : 1 ≤ digitCount d.coefficient := Nat.length_toDigits_pos
  rw [Decimals.toFloat, if_neg nonzero]
  simp only
  rw [if_neg (by omega), if_neg (by omega)]
  refine ofScientific_eq nonzero ?_ (by omega) (by omega) canonical.placed rounds
  split_ifs with down
  · simp only [decide_eq_true_eq] at down
    omega
  · simp only [decide_eq_true_eq] at down
    omega

end Datacube.Number
