import Datacube.Number.Magnitude
import Mathlib.Algebra.Order.Field.Power
import Mathlib.Data.Rat.Cast.Order
import Mathlib.Order.Compare
import Mathlib.Tactic.FieldSimp
import Mathlib.Tactic.GCongr
import Mathlib.Tactic.Linarith
import Mathlib.Tactic.NormNum
import Mathlib.Tactic.Positivity
import Mathlib.Tactic.Ring

/-!
# The order of exact numbers

Comparing two scaled numbers gives the order of their values. Most comparisons are settled by the
positions of the first digits; these shortcuts agree with the values as well.
-/

namespace Datacube.Number

def Exact.value (a : Exact) : ℚ := a.numerator / a.denominator

theorem Exact.scaled_value (coefficient : Int) {base : Nat} (positive : 0 < base) (exponent : Int) :
    (Exact.scaled coefficient base exponent).value = coefficient * (base : ℚ) ^ exponent := by
  have nonzero : (base : ℚ) ≠ 0 := by positivity
  rcases Int.le_total 0 exponent with up | down
  · obtain ⟨n, rfl⟩ := Int.eq_ofNat_of_zero_le up
    simp [Exact.value, Exact.scaled]
  · obtain ⟨n, same⟩ := Int.eq_ofNat_of_zero_le (Int.neg_nonneg_of_nonpos down)
    obtain rfl : exponent = -(n : Int) := by omega
    simp [Exact.value, Exact.scaled, div_eq_mul_inv]

def Exact.Proper (a : Exact) : Prop := 0 < a.denominator

theorem Exact.scaled_proper (coefficient : Int) {base : Nat} (positive : 0 < base)
    (exponent : Int) : (Exact.scaled coefficient base exponent).Proper :=
  Nat.pow_pos positive

/-- A fraction is a whole number if its denominator divides the numerator. -/
theorem Exact.whole_iff {a : Exact} (proper : a.Proper) {n : Int} :
    (if a.numerator % a.denominator = 0 then some (a.numerator / a.denominator) else none) = some n
      ↔ a.value = n := by
  have positive : (0 : ℚ) < a.denominator := by exact_mod_cast proper
  rw [Exact.value, div_eq_iff positive.ne']
  have proper : (0 : Int) < a.denominator := by exact_mod_cast proper
  constructor
  · intro found
    split_ifs at found with exactly
    cases found
    exact_mod_cast (Int.ediv_mul_cancel (Int.dvd_of_emod_eq_zero exactly)).symm
  · intro value
    have value : a.numerator = n * a.denominator := by exact_mod_cast value
    rw [value, if_pos (Int.mul_emod_left _ _), Int.mul_ediv_cancel _ proper.ne']

/-- Cross multiplication compares the sizes of fractions. -/
theorem Exact.compare_size {a b : Exact} (proper : a.Proper) (proper' : b.Proper) :
    (compare (a.numerator.natAbs * b.denominator) (b.numerator.natAbs * a.denominator)).Compares
      |a.value| |b.value| := by
  have left : (0 : ℚ) < a.denominator := by exact_mod_cast proper
  have right : (0 : ℚ) < b.denominator := by exact_mod_cast proper'
  have size (c : Exact) : |c.value| = c.numerator.natAbs / c.denominator := by
    rw [value, abs_div, Nat.abs_cast, ← Int.cast_abs, Int.abs_eq_natAbs, Int.cast_natCast]
  rw [size, size]
  have crossed := (compare_iff (a.numerator.natAbs * b.denominator)
    (b.numerator.natAbs * a.denominator)).mp rfl
  revert crossed
  cases compare (a.numerator.natAbs * b.denominator) (b.numerator.natAbs * a.denominator) with
  | lt =>
      intro less
      change (_ : ℚ) < _
      rw [div_lt_div_iff₀ left right]
      exact_mod_cast less
  | eq =>
      intro equal
      change (_ : ℚ) = _
      rw [div_eq_div_iff left.ne' right.ne']
      exact_mod_cast equal
  | gt =>
      intro greater
      change (_ : ℚ) < _
      rw [div_lt_div_iff₀ right left]
      exact_mod_cast greater

theorem compares_mul_right {o : Ordering} {a b c : ℚ} (positive : 0 < c)
    (compares : o.Compares a b) : o.Compares (a * c) (b * c) := by
  cases o with
  | lt => exact mul_lt_mul_of_pos_right compares positive
  | eq => exact congrArg (· * c) compares
  | gt => exact mul_lt_mul_of_pos_right compares positive

theorem digitCount_bounds {n : Nat} (nonzero : n ≠ 0) :
    10 ^ (digitCount n - 1) ≤ n ∧ n < 10 ^ digitCount n := by
  have positive : 0 < digitCount n := Nat.length_toDigits_pos
  constructor
  · rcases Nat.eq_zero_or_pos (digitCount n - 1) with one | more
    · rw [one]
      omega
    · by_contra less
      have few := (Nat.length_toDigits_le_iff (by decide) more).mpr (not_le.mp less)
      rw [← digitCount] at few
      omega
  · exact (Nat.length_toDigits_le_iff (by decide) positive).mp le_rfl

namespace Scaled
variable {x y : Scaled}

def value (x : Scaled) : ℚ := x.significand * (x.base : ℚ) ^ x.exponent

def Valid (x : Scaled) : Prop := x.base = 2 ∨ x.base = 10

theorem Valid.positive (valid : x.Valid) : 0 < x.base := by
  rcases valid with two | ten <;> omega

theorem value_exact (valid : x.Valid) : x.exact.value = x.value :=
  Exact.scaled_value _ valid.positive _

theorem exact_proper (valid : x.Valid) : x.exact.Proper :=
  Exact.scaled_proper _ valid.positive _

def shift (x : Scaled) (places : Int) : Scaled := { x with exponent := x.exponent - places }

theorem Valid.shift (valid : x.Valid) (places : Int) : (x.shift places).Valid := valid

theorem shift_value (valid : x.Valid) (places : Int) :
    x.value = (x.shift places).value * (x.base : ℚ) ^ places := by
  have nonzero : (x.base : ℚ) ≠ 0 := by
    have := valid.positive
    positivity
  rw [value, value, mul_assoc, Scaled.shift, ← zpow_add₀ nonzero, sub_add_cancel]

theorem abs_value (x : Scaled) : |x.value| = x.significand.natAbs * (x.base : ℚ) ^ x.exponent := by
  rw [value, abs_mul, abs_zpow, Nat.abs_cast, ← Int.cast_abs, Int.abs_eq_natAbs, Int.cast_natCast]

/-! ## Bounds -/

/-- A decimal place takes between three and four binary ones. -/
theorem ten_zpow_bounds (n : Nat) : (2 : ℚ) ^ (3 * (n : Int)) ≤ 10 ^ (n : Int) ∧
    (10 : ℚ) ^ (n : Int) ≤ 2 ^ (4 * (n : Int)) := by
  rw [zpow_mul, zpow_mul, zpow_natCast, zpow_natCast, zpow_natCast]
  constructor <;> gcongr <;> norm_num

theorem ten_zpow_neg_bounds (n : Nat) : (2 : ℚ) ^ (4 * -(n : Int)) ≤ 10 ^ (-(n : Int)) ∧
    (10 : ℚ) ^ (-(n : Int)) ≤ 2 ^ (3 * -(n : Int)) := by
  obtain ⟨low, high⟩ := ten_zpow_bounds n
  rw [mul_neg, mul_neg, zpow_neg, zpow_neg, zpow_neg]
  exact ⟨inv_anti₀ (by positivity) high, inv_anti₀ (by positivity) low⟩

section Bounds
variable (nonzero : x.significand ≠ 0)
include nonzero

theorem enclosed {power : ℚ} {low high : Int} (above : (2 : ℚ) ^ low ≤ power)
    (below : power ≤ 2 ^ high) :
    (2 : ℚ) ^ ((x.significand.natAbs.log2 : Int) + low) ≤ x.significand.natAbs * power ∧
      x.significand.natAbs * power < 2 ^ ((x.significand.natAbs.log2 : Int) + high + 1) := by
  have first : (2 : ℚ) ^ x.significand.natAbs.log2 ≤ x.significand.natAbs := by
    exact_mod_cast Nat.log2_self_le (Int.natAbs_ne_zero.mpr nonzero)
  have last : (x.significand.natAbs : ℚ) < 2 ^ (x.significand.natAbs.log2 + 1) := by
    exact_mod_cast @Nat.lt_log2_self x.significand.natAbs
  have two : (2 : ℚ) ≠ 0 := by norm_num
  constructor
  · rw [zpow_add₀ two, zpow_natCast]
    gcongr
  · calc x.significand.natAbs * power
        < 2 ^ (x.significand.natAbs.log2 + 1) * power := by
          have : 0 < power := lt_of_lt_of_le (by positivity) above
          gcongr
      _ ≤ 2 ^ (x.significand.natAbs.log2 + 1) * 2 ^ high := by gcongr
      _ = 2 ^ ((x.significand.natAbs.log2 : Int) + high + 1) := by
          rw [add_right_comm, zpow_add₀ two, ← Nat.cast_succ, zpow_natCast]

theorem bounds_enclose (valid : x.Valid) :
    (2 : ℚ) ^ x.bounds.1 ≤ |x.value| ∧ |x.value| < 2 ^ x.bounds.2 := by
  rw [abs_value, bounds]
  rcases valid with two | ten
  · rw [if_pos two, two]
    exact enclosed nonzero (by norm_num) (by norm_num)
  · rw [if_neg (by omega), ten]
    split
    · rename_i down
      obtain ⟨n, same⟩ := Int.eq_ofNat_of_zero_le (show 0 ≤ -x.exponent by omega)
      have same : x.exponent = -(n : Int) := by omega
      rw [same]
      obtain ⟨low, high⟩ := ten_zpow_neg_bounds n
      exact enclosed nonzero low high
    · rename_i up
      obtain ⟨n, same⟩ := Int.eq_ofNat_of_zero_le (show 0 ≤ x.exponent by omega)
      rw [same]
      obtain ⟨low, high⟩ := ten_zpow_bounds n
      exact enclosed nonzero low high

/-- The first digit of a decimal stands at its place. -/
theorem place_encloses (ten : x.base = 10) :
    (10 : ℚ) ^ (x.place - 1) ≤ |x.value| ∧ |x.value| < 10 ^ x.place := by
  have nonzero := Int.natAbs_ne_zero.mpr nonzero
  obtain ⟨low, high⟩ := digitCount_bounds nonzero
  have positive : 1 ≤ digitCount x.significand.natAbs := Nat.length_toDigits_pos
  rw [abs_value, place, ten, add_sub_right_comm, zpow_add₀ (by norm_num), zpow_add₀ (by norm_num),
    ← Nat.cast_pred positive, zpow_natCast, zpow_natCast]
  push_cast
  constructor <;> gcongr <;> exact_mod_cast ‹_›

end Bounds

/-! ## Order -/

theorem compareSize_compares (valid : x.Valid) (valid' : y.Valid) (nonzero : x.significand ≠ 0)
    (nonzero' : y.significand ≠ 0) : (compareSize x y).Compares |x.value| |y.value| := by
  obtain ⟨low, high⟩ := bounds_enclose nonzero valid
  obtain ⟨low', high'⟩ := bounds_enclose nonzero' valid'
  have two : (1 : ℚ) ≤ 2 := by norm_num
  rw [compareSize]
  split
  · rename_i below
    exact high.trans_le ((zpow_le_zpow_right₀ two below).trans low')
  · split
    · rename_i above
      exact high'.trans_le ((zpow_le_zpow_right₀ two above).trans low)
    · split
      · rename_i decimal
        simp only [ne_eq, Bool.and_eq_true, decide_eq_true_eq] at decimal
        obtain ⟨⟨ten, ten'⟩, differ⟩ := decimal
        obtain ⟨low, high⟩ := place_encloses nonzero ten
        obtain ⟨low', high'⟩ := place_encloses nonzero' ten'
        have one : (1 : ℚ) ≤ 10 := by norm_num
        split
        · exact high.trans_le ((zpow_le_zpow_right₀ one (by omega)).trans low')
        · exact high'.trans_le ((zpow_le_zpow_right₀ one (by omega)).trans low)
      · simp only
        by_cases same : x.base = y.base
        · rw [if_pos same, if_pos same]
          have power : (x.base : ℚ) ^ min x.exponent y.exponent ≠ 0 := by
            have := valid.positive
            positivity
          have scaled : |y.value| = |(y.shift (min x.exponent y.exponent)).value| *
              |(x.base : ℚ) ^ min x.exponent y.exponent| := by
            rw [shift_value valid' (min x.exponent y.exponent), abs_mul, same]
          rw [scaled, shift_value valid (min x.exponent y.exponent), abs_mul]
          apply compares_mul_right (abs_pos.mpr power)
          rw [← value_exact (valid.shift _), ← value_exact (valid'.shift _)]
          exact Exact.compare_size (exact_proper (valid.shift _)) (exact_proper (valid'.shift _))
        · rw [if_neg same, if_neg same, ← value_exact valid, ← value_exact valid']
          exact Exact.compare_size (exact_proper valid) (exact_proper valid')

theorem value_pos (valid : x.Valid) : 0 < x.value ↔ 0 < x.significand := by
  have positive := valid.positive
  rw [value, mul_pos_iff_of_pos_right (by positivity), Int.cast_pos]

theorem value_neg (valid : x.Valid) : x.value < 0 ↔ x.significand < 0 := by
  have positive := valid.positive
  rw [value, ← neg_pos, ← neg_mul, mul_pos_iff_of_pos_right (by positivity), neg_pos,
    Int.cast_lt_zero]

theorem value_eq_zero (valid : x.Valid) : x.value = 0 ↔ x.significand = 0 := by
  have positive := valid.positive
  rw [value, mul_eq_zero_iff_right (by positivity), Int.cast_eq_zero]

theorem value_lt_of_sign (valid : x.Valid) (valid' : y.Valid)
    (less : x.significand.sign < y.significand.sign) : x.value < y.value := by
  by_cases low : x.significand < 0
  · have high : ¬ y.significand < 0 := by
      intro low'
      rw [Int.sign_eq_neg_one_of_neg low, Int.sign_eq_neg_one_of_neg low'] at less
      exact less.false
    exact ((value_neg valid).mpr low).trans_le (not_lt.mp ((value_neg valid').not.mpr high))
  · have high : 0 < y.significand := by
      rw [← Int.sign_pos_iff]
      exact (Int.sign_nonneg_iff.mpr (not_lt.mp low)).trans_lt less
    have null : ¬ 0 < x.significand := by
      intro high'
      rw [Int.sign_eq_one_of_pos high, Int.sign_eq_one_of_pos high'] at less
      exact less.false
    exact (not_lt.mp ((value_pos valid).not.mpr null)).trans_lt ((value_pos valid').mpr high)

/-- Numbers of one sign are in the order of their sizes, or in the reverse one below zero. -/
theorem order_of_sign (valid : x.Valid) (valid' : y.Valid)
    (equal : x.significand.sign = y.significand.sign) :
    (if x.significand = 0 then .eq
      else if x.significand < 0 then (compareSize x y).swap else compareSize x y).Compares
      x.value y.value := by
  split
  · rename_i zero
    have zero' : y.significand = 0 := by
      rw [zero, Int.sign_zero] at equal
      exact Int.sign_eq_zero_iff_zero.mp equal.symm
    exact ((value_eq_zero valid).mpr zero).trans ((value_eq_zero valid').mpr zero').symm
  · rename_i nonzero
    have nonzero' : y.significand ≠ 0 := by
      intro zero
      rw [zero, Int.sign_zero] at equal
      exact nonzero (Int.sign_eq_zero_iff_zero.mp equal)
    have size := compareSize_compares valid valid' nonzero nonzero'
    split
    · rename_i low
      have low' : y.significand < 0 := by
        rw [← Int.sign_eq_neg_one_iff_neg, ← equal, Int.sign_eq_neg_one_iff_neg]
        exact low
      rw [abs_of_neg ((value_neg valid).mpr low), abs_of_neg ((value_neg valid').mpr low')] at size
      rw [Ordering.compares_swap]
      cases result : compareSize x y <;> rw [result] at size
      · exact neg_lt_neg_iff.mp size
      · exact (neg_inj.mp size).symm
      · exact neg_lt_neg_iff.mp size
    · rename_i above
      have high : 0 < x.significand := by omega
      have high' : 0 < y.significand := by
        rw [← Int.sign_eq_one_iff_pos, ← equal, Int.sign_eq_one_iff_pos]
        exact high
      rw [abs_of_pos ((value_pos valid).mpr high), abs_of_pos ((value_pos valid').mpr high')]
        at size
      exact size

/-- Comparing two numbers gives the order of their values. -/
theorem order_compares (valid : x.Valid) (valid' : y.Valid) :
    (x.order y).Compares x.value y.value := by
  have signs := (compare_iff x.significand.sign y.significand.sign).mp rfl
  rw [order]
  cases result : compare x.significand.sign y.significand.sign <;> rw [result] at signs
  · exact value_lt_of_sign valid valid' signs
  · exact order_of_sign valid valid' signs
  · exact value_lt_of_sign valid' valid signs

theorem order_eq_iff (valid : x.Valid) (valid' : y.Valid) :
    x.order y = .eq ↔ x.value = y.value :=
  (order_compares valid valid').eq_eq

end Scaled
end Datacube.Number
