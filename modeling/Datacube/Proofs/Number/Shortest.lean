import Datacube.Number.Reading
import Datacube.Proofs.Number.Nearest
import Mathlib.Data.List.DropRight

/-!
# The shortest digits read back

The digits chosen for a float lie in its rounding interval: those of the first grid because they
are tested, and those of the last grid, on which nothing is tested, because its steps are so small.

The digits of a number stand for it, the first of them is not zero unless the number is, and leaving
out zeros at the end moves the decimal point only.
-/

namespace Datacube.Number

variable {M : Nat} {E : Int} {t : Target} {d : Decimals}

theorem zpow_eq_div {b : ℚ} (nonzero : b ≠ 0) (e : Int) :
    b ^ e = b ^ e.toNat / b ^ (-e).toNat := by
  rw [← zpow_natCast, ← zpow_natCast, ← zpow_sub₀ nonzero]
  congr 1
  omega

theorem Decimals.value_eq (d : Decimals) :
    d.value = (d.coefficient * 10 ^ d.exponent.toNat : Nat) / (10 ^ (-d.exponent).toNat : Nat) := by
  rw [value, zpow_eq_div (by norm_num)]
  push_cast
  ring

/-! ## The rounding interval -/

namespace Target

/-- The decimal lies between the bounds, and only on them if they belong to the interval. -/
def Contains (t : Target) (v : ℚ) : Prop :=
  if t.closed then (t.low : ℚ) / t.denominator ≤ v ∧ v ≤ t.high / t.denominator
  else (t.low : ℚ) / t.denominator < v ∧ v < t.high / t.denominator

theorem accepts_iff (proper : 0 < t.denominator) : t.accepts d = true ↔ t.Contains d.value := by
  have below : (0 : ℚ) < t.denominator := by exact_mod_cast proper
  have unit : (0 : ℚ) < (10 ^ (-d.exponent).toNat : Nat) := by positivity
  rw [accepts, Contains, d.value_eq]
  split
  · simp only [Bool.and_eq_true, decide_eq_true_eq, Nat.pow_eq]
    rw [div_le_div_iff₀ below unit, div_le_div_iff₀ unit below]
    exact_mod_cast Iff.rfl
  · simp only [Bool.and_eq_true, decide_eq_true_eq, Nat.pow_eq]
    rw [div_lt_div_iff₀ below unit, div_lt_div_iff₀ unit below]
    exact_mod_cast Iff.rfl

end Target

theorem roundHalfEven_eq (n d : Nat) :
    roundHalfEven n d = n / d ∨ roundHalfEven n d = n / d + 1 := by
  rw [roundHalfEven]
  split
  · exact .inl rfl
  · exact .inr rfl

/-- Rounding to a multiple misses a number by half of a unit at most, and by less where the multiple
is an odd one. -/
theorem roundHalfEven_miss {d : Nat} (positive : 0 < d) (n : Nat) :
    2 * |(roundHalfEven n d * d : Int) - n| ≤ d ∧
      (roundHalfEven n d % 2 = 1 → 2 * |(roundHalfEven n d * d : Int) - n| < d) := by
  have division : (n : Int) = (n / d : Nat) * d + (n % d : Nat) := by
    rw [mul_comm]
    exact_mod_cast (Nat.div_add_mod n d).symm
  have less := Nat.mod_lt n positive
  rw [roundHalfEven]
  split
  · rename_i down
    simp only [Bool.or_eq_true, decide_eq_true_eq, Bool.and_eq_true, beq_iff_eq] at down
    have rest : |((n / d : Nat) : Int) * d - n| = (n % d : Nat) := by
      rw [abs_sub_comm, division, add_sub_cancel_left, Nat.abs_cast]
    rw [rest]
    omega
  · rename_i up
    simp only [Bool.or_eq_true, decide_eq_true_eq, Bool.and_eq_true, beq_iff_eq, not_or] at up
    have rest : |((n / d + 1 : Nat) : Int) * d - n| = d - (n % d : Nat) := by
      rw [abs_of_nonneg] <;> rw [division] <;> push_cast <;> linarith
    rw [rest]
    omega

/-- Rounding misses a fraction by a half at most. -/
theorem roundHalfEven_near {n d : Nat} (positive : 0 < d) :
    |(roundHalfEven n d : ℚ) - n / d| ≤ 1 / 2 := by
  have divisor : (0 : ℚ) < d := by exact_mod_cast positive
  have miss : 2 * |(roundHalfEven n d * d : ℚ) - n| ≤ d := by
    exact_mod_cast (roundHalfEven_miss positive n).1
  have scaled : (roundHalfEven n d : ℚ) - n / d = (roundHalfEven n d * d - n) / d := by
    field_simp
  rw [scaled, abs_div, abs_of_pos divisor, div_le_div_iff₀ divisor two_pos]
  linarith

namespace Target

theorem onGrid?_accepts {exponent : Int} (found : t.onGrid? exponent = some d) :
    t.accepts d = true := by
  rw [onGrid?] at found
  split at found
  · rename_i floor next
    obtain rfl := Option.some.inj found
    rcases roundHalfEven_eq (t.value * Nat.pow 10 (-exponent).toNat)
      (t.denominator * Nat.pow 10 exponent.toNat) with same | same
    · rwa [same]
    · rwa [same]
  · rename_i floor next
    exact Option.some.inj found ▸ floor
  · rename_i floor next
    exact Option.some.inj found ▸ next
  · cases found

/-- The digits found are accepted or stand on the last grid. -/
theorem search_cases (point : Int) (fuel used : Nat) :
    t.accepts (t.search point fuel used) = true ∨
      t.search point fuel used =
        ⟨roundHalfEven (t.value * 10 ^ (((used + fuel : Nat) : Int) - point).toNat)
          (t.denominator * 10 ^ (point - (used + fuel : Nat)).toNat),
          point - (used + fuel : Nat)⟩ := by
  induction fuel generalizing used with
  | zero => exact .inr rfl
  | succ fuel ih =>
      rw [search]
      cases found : t.onGrid? (point - used) with
      | some d => exact .inl (onGrid?_accepts found)
      | none =>
          have later := ih (used + 1)
          rw [Nat.add_right_comm used 1 fuel] at later
          exact later

theorem lastGrid_near (proper : 0 < t.denominator) (e : Int) :
    |Decimals.value ⟨roundHalfEven (t.value * 10 ^ (-e).toNat) (t.denominator * 10 ^ e.toNat), e⟩ -
      t.value / t.denominator| ≤ 10 ^ e / 2 := by
  have unit : (0 : ℚ) < 10 ^ e := by positivity
  have near := roundHalfEven_near (n := t.value * 10 ^ (-e).toNat)
    (d := t.denominator * 10 ^ e.toNat) (Nat.mul_pos proper (by positivity))
  have scaled : ((t.value * 10 ^ (-e).toNat : Nat) : ℚ) / (t.denominator * 10 ^ e.toNat : Nat) =
      t.value / t.denominator / 10 ^ e := by
    rw [zpow_eq_div (show (10 : ℚ) ≠ 0 by norm_num) e]
    push_cast
    field_simp
  rw [scaled, ← mul_le_mul_iff_of_pos_right unit] at near
  calc _ = |(roundHalfEven (t.value * 10 ^ (-e).toNat) (t.denominator * 10 ^ e.toNat) : ℚ) -
        t.value / t.denominator / 10 ^ e| * 10 ^ e := by
        rw [Decimals.value, ← abs_of_pos unit, ← abs_mul, abs_of_pos unit, sub_mul,
          div_mul_cancel₀ _ unit.ne']
    _ ≤ 1 / 2 * 10 ^ e := near
    _ = 10 ^ e / 2 := by ring

theorem point_le (positive : 0 < t.value) (proper : 0 < t.denominator) :
    (10 : ℚ) ^ (t.point - 1) ≤ t.value / t.denominator := by
  have above : (0 : ℚ) < t.value := by exact_mod_cast positive
  have below : (0 : ℚ) < t.denominator := by exact_mod_cast proper
  rw [point]
  split
  · rename_i large
    have quotient : t.value / t.denominator ≠ 0 := (Nat.div_pos large proper).ne'
    have some : 1 ≤ digitCount (t.value / t.denominator) := Nat.length_toDigits_pos
    rw [← Nat.cast_pred some, zpow_natCast, le_div_iff₀ below]
    have digits := (digitCount_bounds quotient).1
    have := (Nat.le_div_iff_mul_le proper).mp digits
    exact_mod_cast this
  · rename_i small
    have quotient : t.denominator / t.value ≠ 0 := (Nat.div_pos (by omega) positive).ne'
    rw [sub_sub_cancel_left, zpow_neg, zpow_natCast, inv_eq_one_div,
      div_le_div_iff₀ (by positivity) below, one_mul]
    have digits := (digitCount_bounds quotient).2
    have := (Nat.div_lt_iff_lt_mul positive).mp digits
    rw [mul_comm] at this
    exact_mod_cast this.le

end Target

/-! ## Binary numbers -/

namespace Binary
variable (x : Binary)

theorem target_proper : 0 < x.target.denominator := Nat.pow_pos two_pos

/-- The quarters of the last place over the denominator of the interval. -/
theorem target_scale (n : Nat) :
    ((n * Nat.pow 2 (x.exponent - 2).toNat : Nat) : ℚ) / x.target.denominator =
      n / 4 * 2 ^ x.exponent := by
  have places : (2 : ℚ) ^ x.exponent = 4 * 2 ^ (x.exponent - 2) := by
    rw [zpow_sub₀ two_ne_zero]
    ring
  rw [places, zpow_eq_div two_ne_zero (x.exponent - 2), neg_sub, target]
  simp only [Nat.pow_eq]
  push_cast
  ring

theorem target_value : (x.target.value : ℚ) / x.target.denominator =
    x.mantissa * 2 ^ x.exponent := by
  calc _ = ((4 * x.mantissa : Nat) : ℚ) / 4 * 2 ^ x.exponent := x.target_scale _
    _ = x.mantissa * 2 ^ x.exponent := by push_cast; ring

theorem target_high : (x.target.high : ℚ) / x.target.denominator =
    (x.mantissa + 1 / 2) * 2 ^ x.exponent := by
  calc _ = ((4 * x.mantissa + 2 : Nat) : ℚ) / 4 * 2 ^ x.exponent := x.target_scale _
    _ = (x.mantissa + 1 / 2) * 2 ^ x.exponent := by push_cast; ring

theorem target_low {below : Nat} (positive : 0 < x.mantissa)
    (distance : below = if x.mantissa = Nat.pow 2 52 && x.exponent > -1074 then 1 else 2) :
    (x.target.low : ℚ) / x.target.denominator =
      (x.mantissa - (below : ℚ) / 4) * 2 ^ x.exponent := by
  have less : below ≤ 4 * x.mantissa := by
    rw [distance]
    split <;> omega
  calc _ = ((4 * x.mantissa - below : Nat) : ℚ) / 4 * 2 ^ x.exponent := by
        rw [distance]
        exact x.target_scale _
    _ = (x.mantissa - (below : ℚ) / 4) * 2 ^ x.exponent := by push_cast [less]; ring

end Binary

/-- The decimals accepted for a float are those that are rounded to it. -/
theorem rounds_of_contains {v : ℚ} {negative : Bool} (canonical : Canonical M E)
    (contained : (Binary.mk negative M E).target.Contains v) : Rounds v M E := by
  have unit : (0 : ℚ) < 2 ^ E := by positivity
  obtain ⟨below, distance⟩ : ∃ below : Nat,
    below = if M = Nat.pow 2 52 && E > -1074 then 1 else 2 := ⟨_, rfl⟩
  have low := Binary.target_low ⟨negative, M, E⟩ canonical.positive distance
  have high := Binary.target_high ⟨negative, M, E⟩
  rw [Target.Contains, low, high] at contained
  simp only at contained
  have atLeast : ((M : ℚ) - below / 4) * 2 ^ E ≤ v ∧ v ≤ (M + 1 / 2) * 2 ^ E := by
    split at contained
    · exact contained
    · exact ⟨contained.1.le, contained.2.le⟩
  have most : (below : ℚ) ≤ 2 := by
    rw [distance]
    split <;> norm_num
  refine ⟨?_, atLeast.2, ?_, ?_⟩
  · nlinarith [atLeast.1]
  · intro odd
    have opened : (Binary.mk negative M E).target.closed = false := by
      simp [Binary.target, odd]
    rw [opened, if_neg Bool.false_ne_true] at contained
    exact ⟨by nlinarith [contained.1], contained.2⟩
  · intro power normal
    have near : below = 1 := by
      have least := canonical.least
      rw [distance, if_pos]
      simp only [Bool.and_eq_true, decide_eq_true_eq]
      exact ⟨power, by omega⟩
    have := atLeast.1
    rw [near] at this
    exact_mod_cast this

/-- The shortest digits of a float read back as the float. -/
theorem shortest_rounds {negative : Bool} (canonical : Canonical M E) :
    Rounds (Binary.shortest ⟨negative, M, E⟩).value M E := by
  obtain ⟨t, same⟩ : ∃ t, t = (Binary.mk negative M E).target := ⟨_, rfl⟩
  have proper : 0 < t.denominator := same ▸ Binary.target_proper _
  have value : (t.value : ℚ) / t.denominator = M * 2 ^ E := same ▸ Binary.target_value _
  rw [Binary.shortest, ← same]
  rcases Target.search_cases t.point 17 1 with accepted | last
  · rw [Target.accepts_iff proper] at accepted
    subst same
    exact rounds_of_contains canonical accepted
  · -- the last grid has steps of 10 ^ (point - 18), much smaller than the last place
    apply rounds_of_near
    have near := Target.lastGrid_near proper (t.point - 18)
    rw [neg_sub] at near
    have positive : 0 < t.value := by
      have := canonical.positive
      rw [same]
      exact Nat.mul_pos (by simp; omega) (Nat.pow_pos two_pos)
    have first := Target.point_le positive proper
    have step : (10 : ℚ) ^ (t.point - 18) = 10 ^ (t.point - 1) / 10 ^ 17 := by
      rw [eq_div_iff (by norm_num), ← zpow_natCast, ← zpow_add₀ (by norm_num)]
      congr 1
      push_cast
      ring
    have small : (M : ℚ) ≤ 2 ^ 53 := by exact_mod_cast canonical.small.le
    have unit : (0 : ℚ) < 2 ^ E := by positivity
    rw [value] at near first
    rw [last]
    refine lt_of_le_of_lt near ?_
    rw [step]
    nlinarith

/-! ## The digits of a number -/

section Digits
variable {n : Nat} {digits digits' : List Char}

theorem digitsValue_toDigits (n : Nat) : digitsValue (Nat.toDigits 10 n) = n :=
  Nat.ofDigitChars_ten_toDigits

theorem digitsValue_append (digits digits' : List Char) :
    digitsValue (digits ++ digits') =
      digitsValue digits * 10 ^ digits'.length + digitsValue digits' :=
  (Nat.ofDigitChars_append 0).trans (Nat.ofDigitChars_eq_ofDigitChars_zero.trans
    (congrArg (· + _) (Nat.mul_comm _ _)))

theorem digitsValue_zeros (n : Nat) : digitsValue (List.replicate n '0') = 0 :=
  Nat.ofDigitChars_replicate_zero.trans (Nat.mul_zero _)

theorem digitChar_eq_zero (small : n < 10) (zero : n.digitChar = '0') : n = 0 := by
  revert zero
  decide +revert

theorem head_toDigits (nonzero : n ≠ 0) : (Nat.toDigits 10 n).head? ≠ some '0' := by
  induction n using Nat.strongRecOn with
  | ind n ih =>
      rcases Nat.lt_or_ge n 10 with one | more
      · rw [Nat.toDigits_of_lt_base one, List.head?_cons, ne_eq, Option.some.injEq]
        exact fun zero => nonzero (digitChar_eq_zero one zero)
      · rw [Nat.toDigits_of_base_le (by decide) more,
          List.head?_append_of_ne_nil _ Nat.toDigits_ne_nil]
        exact ih (n / 10) (by omega) (by omega)

theorem isDigit_toDigits : ∀ c ∈ Nat.toDigits 10 n, c.isDigit = true :=
  fun _ member => Nat.isDigit_of_mem_toDigits (by decide) (by decide) member

/-! ## Digits without zeros at the end -/

/-- Digits that begin a number: at least one, and the first is not zero. -/
structure Leading (digits : List Char) : Prop where
  nonempty : digits ≠ []
  digit : ∀ c ∈ digits, c.isDigit = true
  first : digits.head? ≠ some '0'

theorem leading_toDigits (nonzero : n ≠ 0) : Leading (Nat.toDigits 10 n) :=
  ⟨Nat.toDigits_ne_nil, isDigit_toDigits, head_toDigits nonzero⟩

/-- Digits with the decimal point after the given number of them. -/
def pointed (digits : List Char) (point : Int) : ℚ :=
  digitsValue digits * 10 ^ (point - digits.length)

theorem trimmed_spec (leading : Leading (digits ++ List.replicate n '0')) : Leading digits := by
  have nonempty : digits ≠ [] := by
    rintro rfl
    cases n with
    | zero => exact leading.nonempty rfl
    | succ n => exact leading.first rfl
  refine ⟨nonempty, fun c member => leading.digit c (List.mem_append_left _ member), ?_⟩
  have first := leading.first
  rwa [List.head?_append_of_ne_nil _ nonempty] at first

theorem exists_trimmed (digits : List Char) :
    ∃ n, digits = (digits.reverse.dropWhile (· == '0')).reverse ++ List.replicate n '0' := by
  refine ⟨(digits.rtakeWhile (· == '0')).length, ?_⟩
  have zeros : digits.rtakeWhile (· == '0') =
      List.replicate (digits.rtakeWhile (· == '0')).length '0' := by
    rw [List.eq_replicate_iff]
    exact ⟨rfl, fun c member => by simpa using List.mem_rtakeWhile_imp member⟩
  rw [← zeros]
  exact List.rdropWhile_append_rtakeWhile.symm

theorem digits_spec {d : Decimals} (nonzero : d.coefficient ≠ 0) :
    Leading d.digits.1 ∧ pointed d.digits.1 d.digits.2 = d.value := by
  obtain ⟨n, whole⟩ := exists_trimmed (Nat.toDigits 10 d.coefficient)
  obtain ⟨trimmed, same⟩ : ∃ trimmed, trimmed = d.digits.1 := ⟨_, rfl⟩
  have whole : Nat.toDigits 10 d.coefficient = trimmed ++ List.replicate n '0' := by
    rw [same]
    exact whole
  have point : d.digits.2 = d.exponent + (trimmed.length + n : Nat) := by
    rw [Decimals.digits, whole, List.length_append, List.length_replicate]
  have value : d.coefficient = digitsValue trimmed * 10 ^ n := by
    rw [← digitsValue_toDigits d.coefficient, whole, digitsValue_append, digitsValue_zeros,
      List.length_replicate, Nat.add_zero]
  rw [← same]
  refine ⟨trimmed_spec (whole ▸ leading_toDigits nonzero), ?_⟩
  have places : d.exponent + (trimmed.length + n : Nat) - trimmed.length = n + d.exponent := by
    push_cast
    ring
  rw [pointed, point, places, Decimals.value, value, zpow_add₀ (by norm_num), zpow_natCast]
  push_cast
  ring

end Digits

end Datacube.Number
