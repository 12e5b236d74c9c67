import Mathlib

/-!
# Rounding to the nearest binary number

The arithmetic of floats keeps of an exact result the first bits, one more bit and whether anything
follows. That is enough to round to the nearest mantissa: a rounded result is the binary number in
whose rounding interval the exact result lies.
-/

namespace Datacube.Number
open Float.Model Float.Model.UnpackedFloat

/-- The part of an exact value that an accuracy tells of, in units of the last place. -/
def Describes : Accuracy → ℚ → Prop
  | .exact, φ => φ = 0
  | .inexact .lt, φ => 0 < φ ∧ φ < 1 / 2
  | .inexact .eq, φ => φ = 1 / 2
  | .inexact .gt, φ => 1 / 2 < φ ∧ φ < 1

/-- The mantissa and the bits after it are those of an exact value. -/
def Holds (em : ExtendedMantissa) (x : ℚ) : Prop :=
  ∃ ψ : ℚ, 0 ≤ ψ ∧ ψ < 1 ∧ (ψ = 0 ↔ em.stickyBit = false) ∧
    x = em.mantissa + ((if em.roundBit then 1 else 0) + ψ) / 2

variable {em : ExtendedMantissa} {x v φ : ℚ} {m M : Nat} {e E : Int} {accuracy : Accuracy}

theorem holds_ofMantissaAndAccuracy (described : Describes accuracy (x - m)) :
    Holds (.ofMantissaAndAccuracy m accuracy) x := by
  cases accuracy with
  | exact =>
      simp only [Describes] at described
      exact ⟨0, le_rfl, one_pos, by simp [ExtendedMantissa.ofMantissaAndAccuracy], by
        simp [ExtendedMantissa.ofMantissaAndAccuracy]; linarith⟩
  | inexact o =>
      cases o with
      | lt =>
          obtain ⟨above, below⟩ := described
          refine ⟨2 * (x - m), by linarith, by linarith, ?_, ?_⟩
          · simpa [ExtendedMantissa.ofMantissaAndAccuracy] using above.ne'
          · simp [ExtendedMantissa.ofMantissaAndAccuracy]
      | eq =>
          simp only [Describes] at described
          exact ⟨0, le_rfl, one_pos, by simp [ExtendedMantissa.ofMantissaAndAccuracy], by
            simp [ExtendedMantissa.ofMantissaAndAccuracy]; linarith⟩
      | gt =>
          obtain ⟨above, below⟩ := described
          refine ⟨2 * (x - m) - 1, by linarith, by linarith, ?_, ?_⟩
          · have : 2 * (x - m) - 1 ≠ 0 := by linarith
            simpa [ExtendedMantissa.ofMantissaAndAccuracy] using this
          · simp [ExtendedMantissa.ofMantissaAndAccuracy]

theorem Holds.shiftRightOne (holds : Holds em x) : Holds em.shiftRightOne (x / 2) := by
  obtain ⟨ψ, nonneg, small, sticky, rfl⟩ := holds
  obtain ⟨m, round, stick⟩ := em
  refine ⟨((if round then 1 else 0) + ψ) / 2, by positivity, ?_, ?_, ?_⟩
  · split <;> linarith
  · cases round
    · simpa [ExtendedMantissa.shiftRightOne] using sticky
    · have : (1 + ψ) / 2 ≠ 0 := by positivity
      simpa [ExtendedMantissa.shiftRightOne] using this
  · rcases Nat.mod_two_eq_zero_or_one m with even | odd
    · have whole : (m : ℚ) = 2 * (m / 2 : Nat) := by exact_mod_cast (by omega : m = 2 * (m / 2))
      simp only [ExtendedMantissa.shiftRightOne, even, bne_self_eq_false, Bool.false_eq_true,
        if_false]
      linarith
    · have whole : (m : ℚ) = 2 * (m / 2 : Nat) + 1 := by
        exact_mod_cast (by omega : m = 2 * (m / 2) + 1)
      simp only [ExtendedMantissa.shiftRightOne, odd, Nat.reduceBneDiff, if_true]
      linarith

theorem Holds.shiftRight (holds : Holds em x) (n : Nat) : Holds (em >>> n) (x / 2 ^ n) := by
  change Holds (n.repeat ExtendedMantissa.shiftRightOne em) _
  induction n with
  | zero => simpa [Nat.repeat] using holds
  | succ n ih =>
      rw [Nat.repeat, pow_succ, ← div_div]
      exact ih.shiftRightOne

/-- A value between the midpoints around a mantissa is rounded to it; on a midpoint, to the even
one. -/
theorem Holds.rounded (holds : Holds em x) (low : (M : ℚ) - 1 / 2 ≤ x) (high : x ≤ M + 1 / 2)
    (strict : M % 2 = 1 → (M : ℚ) - 1 / 2 < x ∧ x < M + 1 / 2) : em.roundedMantissa = M := by
  obtain ⟨ψ, nonneg, small, sticky, rfl⟩ := holds
  obtain ⟨m, round, stick⟩ := em
  cases round with
  | false =>
      simp only [Bool.false_eq_true, if_false] at low high
      have atMost : M < m + 1 := by exact_mod_cast (by linarith : (M : ℚ) < m + 1)
      have atLeast : m < M + 1 := by exact_mod_cast (by linarith : (m : ℚ) < M + 1)
      obtain rfl : M = m := by omega
      cases stick <;> rfl
  | true =>
      simp only [if_true] at low high strict
      have atMost : M < m + 2 := by exact_mod_cast (by linarith : (M : ℚ) < m + 2)
      have atLeast : m < M + 1 := by exact_mod_cast (by linarith : (m : ℚ) < M + 1)
      cases stick with
      | true =>
          have positive : 0 < ψ := lt_of_le_of_ne nonneg fun zero => by simp [zero.symm] at sticky
          have above : m < M := by exact_mod_cast (by linarith : (m : ℚ) < M)
          obtain rfl : M = m + 1 := by omega
          rfl
      | false =>
          obtain rfl : ψ = 0 := sticky.mpr rfl
          change m + m % 2 = M
          have even : M % 2 = 0 := by
            by_contra odd
            obtain ⟨above, below⟩ := strict (by omega)
            have apart : m < M := by exact_mod_cast (by linarith : (m : ℚ) < M)
            have apart' : M < m + 1 := by exact_mod_cast (by linarith : (M : ℚ) < m + 1)
            omega
          omega

theorem Holds.mantissa_eq (holds : Holds em M) : em.mantissa = M := by
  obtain ⟨ψ, nonneg, small, -, same⟩ := holds
  have bit : (0 : ℚ) ≤ (if em.roundBit then 1 else 0) ∧
      (if em.roundBit then (1 : ℚ) else 0) ≤ 1 := by
    cases em.roundBit <;> norm_num
  have atMost : em.mantissa < M + 1 := by
    exact_mod_cast (by linarith : (em.mantissa : ℚ) < M + 1)
  have atLeast : M < em.mantissa + 1 := by
    exact_mod_cast (by linarith : (M : ℚ) < em.mantissa + 1)
  omega

/-! ## The exponent of a result -/

/-- A mantissa and an exponent that a positive result is rounded to, however great it is. -/
structure Placed (M : Nat) (E : Int) : Prop where
  positive : 0 < M
  small : M < 2 ^ 53
  least : -1074 ≤ E
  full : 2 ^ 52 ≤ M ∨ E = -1074

/-- A mantissa and an exponent that a positive float has. -/
structure Canonical (M : Nat) (E : Int) : Prop where
  positive : 0 < M
  small : M < 2 ^ 53
  least : -1074 ≤ E
  greatest : E ≤ 971
  full : 2 ^ 52 ≤ M ∨ E = -1074

theorem Canonical.placed (canonical : Canonical M E) : Placed M E :=
  ⟨canonical.positive, canonical.small, canonical.least, canonical.full⟩

/-- The values that are rounded to a float. Below a power of two the next one is half as far
away. -/
structure Rounds (v : ℚ) (M : Nat) (E : Int) : Prop where
  low : ((M : ℚ) - 1 / 2) * 2 ^ E ≤ v
  high : v ≤ (M + 1 / 2) * 2 ^ E
  strict : M % 2 = 1 → ((M : ℚ) - 1 / 2) * 2 ^ E < v ∧ v < (M + 1 / 2) * 2 ^ E
  near : M = 2 ^ 52 → E ≠ -1074 → ((M : ℚ) - 1 / 4) * 2 ^ E ≤ v

theorem rounds_of_near {v : ℚ} (near : |v - M * 2 ^ E| < 2 ^ E / 4) : Rounds v M E := by
  have unit : (0 : ℚ) < 2 ^ E := by positivity
  obtain ⟨low, high⟩ := abs_lt.mp near
  constructor
  · nlinarith
  · nlinarith
  · intro
    constructor <;> nlinarith
  · intro _ _
    nlinarith

/-- The exponent to which a mantissa is shifted. -/
def shiftedExponent (m : Nat) (e : Int) : Int := max (m.log2 + e - 52) (-1074)

theorem targetExponent_max (total : Int) :
    Format.binary64.targetExponent total = max (total - 53) (-1074) := by
  have minimum : Format.binary64.minExponent = -1074 := by decide
  have bits : (Format.binary64.mantissaBits : Int) = 53 := by decide
  rw [Format.targetExponent, minimum, bits]

theorem targetExponent_eq (m : Nat) (e : Int) :
    Format.binary64.targetExponent (totalExponent m e) = shiftedExponent m e := by
  rw [targetExponent_max, totalExponent, shiftedExponent]
  omega

theorem shiftToTargetExponent_holds (described : Describes accuracy (v / 2 ^ e - m))
    (up : e ≤ shiftedExponent m e) :
    ∃ em, shiftToTargetExponent Format.binary64 m e accuracy = (em, shiftedExponent m e) ∧
      Holds em (v / 2 ^ shiftedExponent m e) := by
  obtain ⟨n, target⟩ := Int.le.dest up
  refine ⟨ExtendedMantissa.ofMantissaAndAccuracy m accuracy >>> n, ?_, ?_⟩
  · rw [shiftToTargetExponent, targetExponent_eq, shiftToExponent, ← target]
    have amount : (e + n - e).toNat = n := by omega
    simp only [amount]
  · have holds := (holds_ofMantissaAndAccuracy described).shiftRight n
    rwa [div_div, ← zpow_natCast, ← zpow_add₀ (by norm_num), target] at holds

theorem Describes.bounds (described : Describes accuracy φ) : 0 ≤ φ ∧ φ < 1 := by
  cases accuracy with
  | exact =>
      simp only [Describes] at described
      constructor <;> linarith
  | inexact o =>
      cases o with
      | eq =>
          simp only [Describes] at described
          constructor <;> linarith
      | lt | gt =>
          obtain ⟨above, below⟩ := described
          constructor <;> linarith

/-- The position of the first bit of a value, from its mantissa. -/
theorem Describes.below (described : Describes accuracy (v / 2 ^ e - m)) :
    v < 2 ^ ((m.log2 : Int) + e + 1) := by
  have unit : (0 : ℚ) < 2 ^ e := by positivity
  have size : (m : ℚ) + 1 ≤ 2 ^ ((m.log2 : Int) + 1) := by exact_mod_cast Nat.lt_log2_self
  calc v < (m + 1) * 2 ^ e := by rw [← div_lt_iff₀ unit]; linarith [described.bounds.2]
    _ ≤ 2 ^ ((m.log2 : Int) + 1) * 2 ^ e := by gcongr
    _ = 2 ^ ((m.log2 : Int) + e + 1) := by rw [← zpow_add₀ two_ne_zero]; congr 1; ring

theorem Describes.above (described : Describes accuracy (v / 2 ^ e - m)) (nonzero : m ≠ 0) :
    2 ^ ((m.log2 : Int) + e) ≤ v := by
  have unit : (0 : ℚ) < 2 ^ e := by positivity
  have size : (2 : ℚ) ^ (m.log2 : Int) ≤ m := by exact_mod_cast Nat.log2_self_le nonzero
  calc (2 : ℚ) ^ ((m.log2 : Int) + e) = 2 ^ (m.log2 : Int) * 2 ^ e := zpow_add₀ two_ne_zero _ _
    _ ≤ m * 2 ^ e := by gcongr
    _ ≤ v := by rw [← le_div_iff₀ unit]; linarith [described.bounds.1]

theorem zpow_two_add (E : Int) (n : Nat) : (2 : ℚ) ^ (E + n) = 2 ^ n * 2 ^ E := by
  rw [zpow_add₀ two_ne_zero, zpow_natCast, mul_comm]

theorem Rounds.below (placed : Placed M E) (rounds : Rounds v M E) : v < 2 ^ (E + 53) := by
  have unit : (0 : ℚ) < 2 ^ E := by positivity
  rw [show (2 : ℚ) ^ (E + 53) = 2 ^ 53 * 2 ^ E from zpow_two_add E 53]
  have small : (M : ℚ) ≤ 2 ^ 53 - 1 := by
    have := placed.small
    exact_mod_cast (by omega : (M : Int) ≤ 2 ^ 53 - 1)
  calc v ≤ (M + 1 / 2) * 2 ^ E := rounds.high
    _ < 2 ^ 53 * 2 ^ E := by gcongr; linarith

/-- The first bit of a value that is rounded to a float is that of the float, unless the value lies
just below a power of two. -/
theorem Rounds.above (placed : Placed M E) (rounds : Rounds v M E) (normal : E ≠ -1074) :
    2 ^ (E + 52) ≤ v ∨ M = 2 ^ 52 ∧ 2 ^ (E + 51) ≤ v := by
  have unit : (0 : ℚ) < 2 ^ E := by positivity
  rcases (placed.full.resolve_right normal).eq_or_lt with least | more
  · right
    refine ⟨least.symm, (zpow_two_add E 51).trans_le (le_trans ?_ (rounds.near least.symm normal))⟩
    rw [← least]
    gcongr
    norm_num
  · left
    refine (zpow_two_add E 52).trans_le (le_trans ?_ rounds.low)
    have large : (2 : ℚ) ^ 52 + 1 ≤ M := by exact_mod_cast more
    gcongr
    linarith

theorem shiftedExponent_cases (placed : Placed M E) (rounds : Rounds v M E)
    (described : Describes accuracy (v / 2 ^ e - m)) (enough : 52 ≤ m.log2 ∨ e ≤ -1074) :
    shiftedExponent m e = E ∨ shiftedExponent m e = E - 1 ∧ M = 2 ^ 52 ∧ v < 2 ^ (E + 52) := by
  have least := placed.least
  have upper : (m.log2 : Int) + e - 52 ≤ E := by
    rcases eq_or_ne m 0 with rfl | nonzero
    · simp at enough ⊢
      omega
    · have order := (described.above nonzero).trans_lt (rounds.below placed)
      rw [zpow_lt_zpow_iff_right₀ one_lt_two] at order
      omega
  rcases eq_or_ne E (-1074) with rfl | normal
  · left
    rw [shiftedExponent]
    omega
  · by_cases full : 2 ^ (E + 52) ≤ v
    · have order := full.trans_lt described.below
      rw [zpow_lt_zpow_iff_right₀ one_lt_two] at order
      rw [shiftedExponent]
      omega
    · obtain ⟨power, half⟩ := (rounds.above placed normal).resolve_left full
      have order := half.trans_lt described.below
      rw [zpow_lt_zpow_iff_right₀ one_lt_two] at order
      have either : shiftedExponent m e = E ∨ shiftedExponent m e = E - 1 := by
        rw [shiftedExponent]
        omega
      exact either.imp_right fun same => ⟨same, power, not_le.mp full⟩

/-! ## Rounding -/

theorem Rounds.units (rounds : Rounds v M E) : (M : ℚ) - 1 / 2 ≤ v / 2 ^ E ∧
    v / 2 ^ E ≤ M + 1 / 2 ∧
    (M % 2 = 1 → (M : ℚ) - 1 / 2 < v / 2 ^ E ∧ v / 2 ^ E < M + 1 / 2) := by
  have unit : (0 : ℚ) < 2 ^ E := by positivity
  rw [le_div_iff₀ unit, div_le_iff₀ unit, lt_div_iff₀ unit, div_lt_iff₀ unit]
  exact ⟨rounds.low, rounds.high, rounds.strict⟩

/-- Shifting a mantissa that has its place changes nothing. -/
theorem shiftedExponent_placed (placed : Placed M E) : shiftedExponent M E = E := by
  have least := placed.least
  have small := (Nat.log2_lt placed.positive.ne').mpr placed.small
  rcases placed.full with full | minimal
  · have := (Nat.le_log2 placed.positive.ne').mpr full
    rw [shiftedExponent]
    omega
  · rw [shiftedExponent]
    omega

/-- A result is shifted to its place, rounded, and shifted again where rounding filled it up. -/
theorem roundWithAccuracy_of_shifts {s : Sign} {e₁ : Int} {M₁ : Nat} (positive : 0 < M)
    (first : shiftToTargetExponent Format.binary64 m e accuracy = (em, e₁))
    (rounded : em.roundedMantissa = M₁) (target : shiftedExponent M₁ e₁ = E) (up : e₁ ≤ E)
    (whole : (M₁ : ℚ) * 2 ^ e₁ / 2 ^ E = M) :
    roundWithAccuracy Format.binary64 s m e accuracy = .finite s M E positive := by
  have exactly : Describes .exact ((M₁ : ℚ) * 2 ^ e₁ / 2 ^ e₁ - M₁) := by
    rw [mul_div_cancel_right₀ _ (by positivity), sub_self]
    rfl
  obtain ⟨em', second, holds⟩ := shiftToTargetExponent_holds exactly (target ▸ up)
  rw [target] at second holds
  rw [whole] at holds
  obtain rfl := holds.mantissa_eq
  rw [roundWithAccuracy]
  simp only [first, rounded, second]
  rw [dif_neg positive.ne']

/-- A result is rounded to the float in whose rounding interval the exact value lies. -/
theorem roundWithAccuracy_eq (placed : Placed M E) (rounds : Rounds v M E)
    (described : Describes accuracy (v / 2 ^ e - m)) (enough : 52 ≤ m.log2 ∨ e ≤ -1074)
    (s : Sign) :
    roundWithAccuracy Format.binary64 s m e accuracy = .finite s M E placed.positive := by
  have up : e ≤ shiftedExponent m e := by
    rw [shiftedExponent]
    omega
  obtain ⟨em, first, holds⟩ := shiftToTargetExponent_holds described up
  rcases shiftedExponent_cases placed rounds described enough with same | ⟨same, power, less⟩
  · rw [same] at first holds
    obtain ⟨low, high, strict⟩ := rounds.units
    refine roundWithAccuracy_of_shifts placed.positive first (holds.rounded low high strict)
      (shiftedExponent_placed placed) le_rfl ?_
    rw [mul_div_cancel_right₀ _ (by positivity)]
  · -- the mantissa is rounded up to a power of two and takes one more bit than there is room for
    subst power
    have normal : E ≠ -1074 := by
      rw [shiftedExponent] at same
      omega
    have unit : (0 : ℚ) < 2 ^ E := by positivity
    have half : (2 : ℚ) ^ (E - 1) = 2 ^ E / 2 := by rw [zpow_sub₀ two_ne_zero, zpow_one]
    have least := rounds.near rfl normal
    have full : (2 : ℚ) ^ (E + 52) = 2 ^ 52 * 2 ^ E := zpow_two_add E 52
    rw [same] at first holds
    rw [half] at holds
    rw [full] at less
    push_cast at least
    have rounded : em.roundedMantissa = 2 ^ 53 := by
      apply holds.rounded
      · rw [le_div_iff₀ (by positivity)]
        push_cast
        linarith
      · rw [div_le_iff₀ (by positivity)]
        push_cast
        linarith
      · exact fun odd => absurd odd (by decide)
    refine roundWithAccuracy_of_shifts placed.positive first rounded ?_ (by omega) ?_
    · rw [shiftedExponent, Nat.log2_two_pow]
      have := placed.least
      omega
    · rw [half]
      field_simp
      norm_num

/-- A result that is known exactly is first given the bits it lacks. -/
theorem round_eq (nonzero : m ≠ 0) (placed : Placed M E) (rounds : Rounds (m * 2 ^ e) M E)
    (s : Sign) :
    UnpackedFloat.round Format.binary64 s m e = .finite s M E placed.positive := by
  obtain ⟨k, amount⟩ : ∃ k, (e - shiftedExponent m e).toNat = k := ⟨_, rfl⟩
  rw [UnpackedFloat.round, targetExponent_eq, decreaseExponent]
  simp only [amount, Nat.shiftLeft_eq]
  refine roundWithAccuracy_eq placed rounds ?_ ?_ s
  · have scaled : (m : ℚ) * 2 ^ e = (m * 2 ^ k : Nat) * 2 ^ (e - k) := by
      rw [zpow_sub₀ two_ne_zero, zpow_natCast]
      push_cast
      field_simp
    rw [scaled, mul_div_cancel_right₀ _ (by positivity), sub_self]
    rfl
  · rw [shiftedExponent] at amount
    by_cases least : e - k ≤ -1074
    · exact .inr least
    · left
      have full : 2 ^ 52 ≤ m * 2 ^ k := by
        calc 2 ^ 52 ≤ 2 ^ (m.log2 + k) := Nat.pow_le_pow_right two_pos (by omega)
          _ = 2 ^ m.log2 * 2 ^ k := pow_add 2 _ _
          _ ≤ m * 2 ^ k := by gcongr; exact Nat.log2_self_le nonzero
      exact (Nat.le_log2 (by omega)).mpr full

end Datacube.Number
