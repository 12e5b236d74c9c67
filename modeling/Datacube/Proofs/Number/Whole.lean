import Datacube.Proofs.Number.Shortest

/-!
# Whole numbers as floats

A float keeps the first 53 bits of a whole number. So a sum of floats that stand for whole numbers
stands for the sum rounded to as many bits, and is infinite where there is no such float.
-/

namespace Datacube.Number
open Float.Model Float.Model.UnpackedFloat

variable {m n M : Nat} {e E : Int} {s : Sign}

/-! ## Rounding whole numbers -/

/-- The distance of the floats around a whole number. -/
def spacing (n : Nat) : Nat := 2 ^ (n.log2 - 52)

def nearestNat (n : Nat) : Nat := roundHalfEven n (spacing n) * spacing n

/-- The whole number of at most 53 bits, followed by zeros, that is nearest to a whole number; half
way between two of them, the one whose last bit is even. -/
def nearest (n : Int) : Int := n.sign * nearestNat n.natAbs

theorem spacing_pos (n : Nat) : 0 < spacing n := Nat.two_pow_pos _

theorem roundHalfEven_mul (positive : 0 < m) (n : Nat) : roundHalfEven (n * m) m = n := by
  rw [roundHalfEven]
  simp [positive]

theorem nearestNat_eq (multiple : spacing n ∣ n) : nearestNat n = n := by
  obtain ⟨c, split⟩ := multiple
  have rounded := roundHalfEven_mul (spacing_pos n) c
  rw [mul_comm c, ← split] at rounded
  rw [nearestNat, rounded, mul_comm, ← split]

theorem spacing_eq_one (short : n.log2 ≤ 52) : spacing n = 1 := by
  rw [spacing, Nat.sub_eq_zero_of_le short, pow_zero]

theorem spacing_bounds (nonzero : n ≠ 0) (long : 52 ≤ n.log2) :
    2 ^ 52 * spacing n ≤ n ∧ n < 2 ^ 53 * spacing n := by
  rw [spacing, ← pow_add, ← pow_add, show 52 + (n.log2 - 52) = n.log2 by omega,
    show 53 + (n.log2 - 52) = n.log2 + 1 by omega]
  exact ⟨Nat.log2_self_le nonzero, Nat.lt_log2_self⟩

/-- A mantissa that misses a number by half of a unit at most has its place, where it is the first
power of two too large as well. -/
theorem exists_placed_of_near {r k : Nat} (low : 2 ^ 52 * 2 ^ k ≤ n) (high : n < 2 ^ 53 * 2 ^ k)
    (least : 2 ^ 52 ≤ r) (greatest : r ≤ 2 ^ 53) (near : 2 * |(r * 2 ^ k : ℚ) - n| ≤ 2 ^ k)
    (strict : r % 2 = 1 → 2 * |(r * 2 ^ k : ℚ) - n| < 2 ^ k) :
    ∃ M E, Placed M E ∧ Rounds n M E ∧ (M : ℚ) * 2 ^ E = r * 2 ^ k := by
  have low : (2 : ℚ) ^ 52 * 2 ^ k ≤ n := by exact_mod_cast low
  have high : (n : ℚ) < 2 ^ 53 * 2 ^ k := by exact_mod_cast high
  obtain ⟨below, above⟩ := abs_le.mp ((le_div_iff₀' two_pos).mpr near)
  rcases greatest.lt_or_eq with less | rfl
  · refine ⟨r, k, ⟨by omega, less, by omega, .inl least⟩,
      ⟨?_, ?_, fun odd => ?_, fun power _ => ?_⟩, by rw [zpow_natCast]⟩ <;> rw [zpow_natCast]
    · linarith
    · linarith
    · obtain ⟨below, above⟩ := abs_lt.mp ((lt_div_iff₀' two_pos).mpr (strict odd))
      constructor <;> linarith
    · rw [power]
      push_cast
      linarith
  · -- the mantissa takes one more bit than there is room for
    have twice : (2 : ℚ) ^ ((k : Int) + 1) = 2 * 2 ^ k := by
      rw [zpow_add_one₀ two_ne_zero, zpow_natCast, mul_comm]
    push_cast at below above
    refine ⟨2 ^ 52, k + 1, ⟨by omega, by omega, by omega, .inl le_rfl⟩,
      ⟨?_, ?_, fun odd => absurd odd (by decide), fun _ _ => ?_⟩, ?_⟩ <;>
      rw [twice] <;> push_cast
    · linarith
    · linarith
    · linarith
    · ring

/-- A whole number is rounded to the nearest one with 53 bits, whatever its size. -/
theorem exists_placed (positive : 0 < n) :
    ∃ M E, Placed M E ∧ Rounds n M E ∧ (M : ℚ) * 2 ^ E = nearestNat n := by
  by_cases small : n < 2 ^ 53
  · obtain ⟨M, E, canonical, value, -⟩ := exists_full positive small
    have short := (Nat.log2_lt positive.ne').mpr small
    have unit := spacing_eq_one (n := n) (by omega)
    rw [nearestNat_eq (unit ▸ one_dvd n), ← value]
    exact ⟨M, E, canonical.placed, rounds_self M E, rfl⟩
  · have long := (Nat.le_log2 positive.ne').mpr (not_lt.mp small)
    obtain ⟨low, high⟩ := spacing_bounds positive.ne' (by omega)
    obtain ⟨k, unit⟩ : ∃ k, spacing n = 2 ^ k := ⟨_, rfl⟩
    rw [unit] at low high
    obtain ⟨near, strict⟩ := roundHalfEven_miss (Nat.two_pow_pos k) n
    have bounds := roundHalfEven_eq n (2 ^ k)
    have least := (Nat.le_div_iff_mul_le (Nat.two_pow_pos k)).mpr low
    have greatest := (Nat.div_lt_iff_lt_mul (Nat.two_pow_pos k)).mpr high
    rw [nearestNat, unit]
    push_cast
    exact exists_placed_of_near low high (by omega) (by omega) (by exact_mod_cast near)
      fun odd => by exact_mod_cast strict odd

/-- A number with 53 bits is a multiple of the unit in which numbers of its size are rounded. -/
theorem dvd_of_bits {j k : Nat} (value : (M : ℚ) * 2 ^ E = j) (small : M < 2 ^ 53)
    (large : 2 ^ 52 * 2 ^ k ≤ j) : 2 ^ k ∣ j := by
  have unit : (0 : ℚ) < 2 ^ E := by positivity
  have order : (2 : ℚ) ^ ((52 : Int) + k) < 2 ^ ((53 : Int) + E) := by
    calc (2 : ℚ) ^ ((52 : Int) + k) = 2 ^ 52 * 2 ^ k := by
          rw [zpow_add₀ two_ne_zero, zpow_natCast]
          norm_num
      _ ≤ j := by exact_mod_cast large
      _ = M * 2 ^ E := value.symm
      _ < 2 ^ 53 * 2 ^ E := by gcongr; exact_mod_cast small
      _ = 2 ^ ((53 : Int) + E) := by
          rw [zpow_add₀ two_ne_zero]
          norm_num
  rw [zpow_lt_zpow_iff_right₀ one_lt_two] at order
  obtain ⟨i, rfl⟩ := Int.le.dest (show (k : Int) ≤ E by omega)
  refine ⟨M * 2 ^ i, ?_⟩
  rw [zpow_add₀ two_ne_zero, zpow_natCast, zpow_natCast] at value
  have value : M * (2 ^ k * 2 ^ i) = j := by exact_mod_cast value
  rw [← value]
  ring

theorem spacing_dvd (value : (M : ℚ) * 2 ^ E = n) (small : M < 2 ^ 53) : spacing n ∣ n := by
  rcases Nat.eq_zero_or_pos n with rfl | positive
  · exact dvd_zero _
  rcases le_total n.log2 52 with short | long
  · exact spacing_eq_one short ▸ one_dvd n
  · exact dvd_of_bits value small (spacing_bounds positive.ne' long).1

theorem nearestNat_le_multiple (n c : Nat) :
    |(nearestNat n : Int) - n| ≤ |(c * spacing n : Int) - n| := by
  have positive := spacing_pos n
  have near := (roundHalfEven_miss positive n).1
  rw [nearestNat, Nat.cast_mul]
  rcases eq_or_ne (roundHalfEven n (spacing n)) c with rfl | apart
  · rfl
  · have unit : (spacing n : Int) ≤ |(roundHalfEven n (spacing n) - c : Int) * spacing n| := by
      rw [abs_mul, Nat.abs_cast]
      refine le_mul_of_one_le_left (by positivity) (Int.one_le_abs (sub_ne_zero.mpr ?_))
      exact_mod_cast apart
    have triangle := abs_sub_le ((roundHalfEven n (spacing n) : Int) * spacing n) n (c * spacing n)
    rw [← sub_mul, abs_sub_comm (n : Int)] at triangle
    linarith

/-- No number with 53 bits is nearer. -/
theorem nearestNat_le {j : Nat} (value : (M : ℚ) * 2 ^ E = j) (small : M < 2 ^ 53) (n : Nat) :
    |(nearestNat n : Int) - n| ≤ |(j : Int) - n| := by
  rcases le_total n.log2 52 with short | long
  · rw [nearestNat_eq (spacing_eq_one short ▸ one_dvd n), sub_self, abs_zero]
    exact abs_nonneg _
  rcases le_or_gt (2 ^ 52 * spacing n) j with above | below
  · obtain ⟨c, rfl⟩ := dvd_of_bits value small above
    rw [← spacing, mul_comm (spacing n), Nat.cast_mul]
    exact nearestNat_le_multiple n c
  · -- Numbers below the least one of the size of `n` are further away than that one.
    have nonzero : n ≠ 0 := by
      rintro rfl
      simp at long
    have least := (spacing_bounds nonzero long).1
    refine (nearestNat_le_multiple n (2 ^ 52)).trans ?_
    rw [abs_sub_comm, abs_sub_comm (j : Int), abs_of_nonneg, abs_of_nonneg] <;> push_cast <;> omega

theorem nearest_apply (s : Sign) (k : Nat) : nearest (s.apply k) = s.apply (nearestNat k) := by
  rcases Nat.eq_zero_or_pos k with rfl | positive
  · cases s <;> decide +kernel
  · have sign := Int.sign_eq_one_of_pos (Int.natCast_pos.mpr positive)
    cases s <;> simp [nearest, Sign.apply, sign]

/-! ## Floats that stand for whole numbers -/

/-- A result of float arithmetic is a whole number. Its exponent may be too large for a float. -/
inductive Means (n : Int) : UnpackedFloat → Prop
  | zero (s : Sign) (null : n = 0) : Means n (.zero s)
  | finite (s : Sign) {k M : Nat} {E : Int} (placed : Placed M E) (size : (M : ℚ) * 2 ^ E = k)
      (sign : s.apply k = n) : Means n (.finite s M E placed.positive)

section Means
variable {a b n S : Int} {k : Nat} {u v : UnpackedFloat} {x : Float}

theorem Means.nearest_eq (means : Means n u) : nearest n = n := by
  cases means with
  | zero s null =>
      subst null
      decide +kernel
  | finite s placed size sign =>
      rw [← sign, nearest_apply, nearestNat_eq (spacing_dvd size placed.small)]

theorem size_pos (positive : 0 < m) (size : (m : ℚ) * 2 ^ e = k) : 0 < k := by
  have above : (0 : ℚ) < k := by
    rw [← size]
    positivity
  exact_mod_cast above

theorem round_means (positive : 0 < m) (size : (m : ℚ) * 2 ^ e = k) (s : Sign) :
    Means (nearest (s.apply k)) (UnpackedFloat.round Format.binary64 s m e) := by
  obtain ⟨M, E, placed, rounds, value⟩ := exists_placed (size_pos positive size)
  rw [round_eq positive.ne' placed (size ▸ rounds), nearest_apply]
  exact .finite s placed value rfl

theorem normalize_means (value : (S : ℚ) * 2 ^ e = n) (s : Sign) :
    Means (nearest n) (UnpackedFloat.normalize Format.binary64 S e s) := by
  have unit : (0 : ℚ) < 2 ^ e := by positivity
  have order := (compare_iff S 0).mp rfl
  rw [UnpackedFloat.normalize]
  revert order
  cases compare S 0 with
  | lt =>
      intro below
      obtain ⟨m, rfl⟩ := Int.eq_negSucc_of_lt_zero below
      have negative : n < 0 := by
        have : (n : ℚ) < 0 := by
          rw [← value]
          exact mul_neg_of_neg_of_pos (by exact_mod_cast below) unit
        exact_mod_cast this
      obtain ⟨k, rfl⟩ := Int.eq_negSucc_of_lt_zero negative
      rw [Int.cast_negSucc, Int.cast_negSucc, neg_mul] at value
      exact round_means (Nat.succ_pos m) (neg_inj.mp value) .negative
  | eq =>
      rintro rfl
      have null : n = 0 := by
        rw [Int.cast_zero, zero_mul] at value
        exact_mod_cast value.symm
      subst null
      exact .zero s (by decide +kernel)
  | gt =>
      intro above
      obtain ⟨m, rfl⟩ := Int.eq_ofNat_of_zero_le (le_of_lt above)
      have nonneg : 0 ≤ n := by
        have : (0 : ℚ) ≤ n := by
          rw [← value]
          positivity
        exact_mod_cast this
      obtain ⟨k, rfl⟩ := Int.eq_ofNat_of_zero_le nonneg
      exact round_means (Int.natCast_pos.mp above) value .positive

theorem apply_value (s : Sign) (size : (m : ℚ) * 2 ^ e = k) :
    (s.apply m : ℚ) * 2 ^ e = s.apply k := by
  cases s with
  | negative => simp [Sign.apply, size]
  | positive => exact size

theorem aligned_value {t : Int} (less : t ≤ e) (size : (m : ℚ) * 2 ^ e = k) :
    ((m <<< (e - t).toNat : Nat) : ℚ) * 2 ^ t = k := by
  obtain ⟨i, rfl⟩ := Int.le.dest less
  rw [← size, show (t + i - t).toNat = i by omega, Nat.shiftLeft_eq, zpow_two_add]
  push_cast
  ring

/-- The sum of two whole numbers is rounded to the nearest one. -/
theorem add_means (first : Means a u) (second : Means b v) :
    Means (nearest (a + b)) (UnpackedFloat.add Format.binary64 u v) := by
  cases first with
  | zero s null =>
      -- A sum with zero is the other number, which rounding leaves as it is.
      subst null
      rw [zero_add, second.nearest_eq]
      cases second with
      | zero t null =>
          rw [UnpackedFloat.add]
          split
          · exact .zero _ null
          · exact .zero _ null
      | finite t placed size sign => exact .finite t placed size sign
  | finite s placed size sign =>
      cases second with
      | zero t null =>
          subst null
          rw [add_zero, (Means.finite s placed size sign).nearest_eq]
          exact .finite s placed size sign
      | finite t placed' size' sign' =>
          -- Both mantissas are aligned to the smaller exponent, and their sum is exact there.
          refine normalize_means ?_ .positive
          rw [Int.cast_add, add_mul, Int.cast_add]
          exact congrArg₂ (· + ·) (sign ▸ apply_value s (aligned_value (min_le_left _ _) size))
            (sign' ▸ apply_value t (aligned_value (min_le_right _ _) size'))

/-! ## Packing -/

theorem wholePart?_iff {negative : Bool} (found : parts x = .finite ⟨negative, M, E⟩) :
    wholePart? x = some n ↔ ((signOf negative).apply M : ℚ) * 2 ^ E = n := by
  have signed : (if negative then -(M : Int) else M) = (signOf negative).apply M := by
    cases negative <;> rfl
  have value := Exact.scaled_value ((signOf negative).apply M) two_pos E
  rw [Nat.cast_two] at value
  rw [← value, ← Exact.whole_iff (Exact.scaled_proper _ two_pos E), wholePart?, found]
  simp only [Binary.exact, signed]

theorem exists_size (value : (s.apply M : ℚ) * 2 ^ E = n) :
    ∃ k : Nat, (M : ℚ) * 2 ^ E = k ∧ s.apply k = n := by
  have nonneg : (0 : ℚ) ≤ M * 2 ^ E := by positivity
  cases s with
  | positive =>
      have value : (M : ℚ) * 2 ^ E = n := value
      rw [value] at nonneg ⊢
      obtain ⟨k, rfl⟩ := Int.eq_ofNat_of_zero_le (by exact_mod_cast nonneg : 0 ≤ n)
      exact ⟨k, rfl, rfl⟩
  | negative =>
      have value : (M : ℚ) * 2 ^ E = (-n : Int) := by
        rw [Sign.apply, Int.cast_neg, neg_mul] at value
        rw [Int.cast_neg, ← value, neg_neg]
        rfl
      rw [value] at nonneg ⊢
      obtain ⟨k, same⟩ := Int.eq_ofNat_of_zero_le (by exact_mod_cast nonneg : 0 ≤ -n)
      exact ⟨k, by rw [same]; rfl, by rw [Sign.apply, ← same, neg_neg]⟩

theorem parts_of_whole (whole : wholePart? x = some n) :
    ∃ negative M E, parts x = .finite ⟨negative, M, E⟩ := by
  rw [wholePart?] at whole
  split at whole
  · exact ⟨_, _, _, ‹_›⟩
  · cases whole

/-- A float that stands for a whole number is packed from a result that does. -/
theorem exists_means (whole : wholePart? x = some n) :
    ∃ u, Means n u ∧ x = packed u ∧ x.toModel.unpack = u := by
  obtain ⟨negative, M, E, found⟩ := parts_of_whole whole
  obtain ⟨k, size, sign⟩ := exists_size ((wholePart?_iff found).mp whole)
  rcases (parts_finite found).2 with ⟨rfl, rfl⟩ | canonical
  · have same := eq_packed_zero found
    refine ⟨_, .zero _ ?_, same, same ▸ unpack_packed_zero⟩
    obtain rfl : k = 0 := by
      rw [Nat.cast_zero, zero_mul] at size
      exact_mod_cast size.symm
    rw [← sign]
    cases negative <;> rfl
  · have same := eq_packed canonical found
    exact ⟨_, .finite _ canonical.placed size sign, same, same ▸ unpack_packed canonical⟩

/-- The first power of two beyond the range of floats. -/
@[irreducible] def floatBound : Nat := 2 ^ 1024

theorem floatBound_cast : (floatBound : ℚ) = 2 ^ (1024 : Int) := by
  have cast (k : Nat) : ((2 ^ k : Nat) : ℚ) = 2 ^ (k : Int) := by
    rw [zpow_natCast, Nat.cast_pow, Nat.cast_ofNat]
  unfold floatBound
  exact cast 1024

theorem floatBound_pos : 0 < floatBound := by
  have positive : (0 : ℚ) < floatBound := by
    rw [floatBound_cast]
    positivity
  exact_mod_cast positive

theorem Placed.canonical_iff (placed : Placed M E) :
    Canonical M E ↔ (M : ℚ) * 2 ^ E < floatBound := by
  have unit : (0 : ℚ) < 2 ^ E := by positivity
  rw [floatBound_cast]
  constructor
  · intro canonical
    calc (M : ℚ) * 2 ^ E < 2 ^ 53 * 2 ^ E := by gcongr; exact_mod_cast placed.small
      _ = 2 ^ (E + 53) := (zpow_two_add E 53).symm
      _ ≤ 2 ^ (1024 : Int) := zpow_le_zpow_right₀ one_le_two (by linarith [canonical.greatest])
  · intro below
    refine ⟨placed.positive, placed.small, placed.least, ?_, placed.full⟩
    by_contra beyond
    have full : (2 : ℚ) ^ 52 ≤ M := by exact_mod_cast placed.full.resolve_right (by omega)
    refine absurd below (not_lt.mpr ?_)
    calc (2 : ℚ) ^ (1024 : Int) ≤ 2 ^ (E + 52) := zpow_le_zpow_right₀ one_le_two (by omega)
      _ = 2 ^ 52 * 2 ^ E := zpow_two_add E 52
      _ ≤ M * 2 ^ E := by gcongr

theorem natAbs_apply (s : Sign) (k : Nat) : (s.apply k).natAbs = k := by
  cases s
  · exact Int.natAbs_neg k
  · rfl

theorem Means.wholePart?_packed (means : Means n u) (inside : n.natAbs < floatBound) :
    wholePart? (packed u) = some n := by
  cases means with
  | zero s null =>
      rw [wholePart?_iff (parts_of_bits toBits_packed_zero (.inl ⟨rfl, rfl⟩)), null]
      cases s <;> simp [Sign.apply, signOf, isNegative]
  | finite s placed size sign =>
      have canonical := placed.canonical_iff.mpr (by
        rw [size]
        rw [← sign, natAbs_apply] at inside
        exact_mod_cast inside)
      rw [wholePart?_iff (parts_of_bits (toBits_packed canonical) (.inr canonical)),
        signOf_isNegative, ← sign]
      exact apply_value s size

/-- Beyond the range of floats a result is packed as infinite. -/
theorem Means.packed_eq (means : Means n u) (beyond : floatBound ≤ n.natAbs) :
    packed u = packed (.infinity (signOf (n < 0))) := by
  cases means with
  | zero s null =>
      rw [null, Int.natAbs_zero] at beyond
      exact absurd beyond (not_le.mpr floatBound_pos)
  | @finite s k M E placed size sign =>
      have large : ¬ Canonical M E := by
        rw [placed.canonical_iff, size, not_lt]
        rw [← sign, natAbs_apply] at beyond
        exact_mod_cast beyond
      have exponent : 972 ≤ E := by
        by_contra small
        exact large ⟨placed.positive, placed.small, placed.least, by omega, placed.full⟩
      have direction : signOf (n < 0) = s := by
        have positive := size_pos placed.positive size
        cases s with
        | negative =>
            have below : n < 0 := by rw [← sign, Sign.apply]; omega
            rw [decide_eq_true below]
            rfl
        | positive =>
            have above : ¬ n < 0 := by rw [← sign, Sign.apply]; omega
            rw [decide_eq_false above]
            rfl
      rw [direction, packed_beyond placed.positive exponent]

/-! ## Conversion -/

theorem neg_packed_placed (placed : Placed M E) :
    -packed (.finite .positive M E placed.positive) =
      packed (.finite .negative M E placed.positive) := by
  rcases le_or_gt E 971 with inside | beyond
  · exact neg_packed ⟨placed.positive, placed.small, placed.least, inside, placed.full⟩
  · rw [packed_beyond placed.positive beyond, packed_beyond placed.positive beyond]
    change packed (UnpackedFloat.neg (packed _).toModel.unpack) = _
    rw [unpack_packed_infinity]
    rfl

theorem ofNat_packed {n : Nat} (positive : 0 < n) :
    ∃ M E, ∃ placed : Placed M E, (M : ℚ) * 2 ^ E = nearestNat n ∧
      Float.ofNat n = packed (.finite .positive M E placed.positive) := by
  obtain ⟨M, E, placed, rounds, value⟩ := exists_placed positive
  refine ⟨M, E, placed, value, ?_⟩
  refine ofScientific_eq positive.ne' rfl (by simp) (by simp) placed ?_
  simpa using rounds

theorem ofInt_packed (n : Int) : ∃ u, Means (nearest n) u ∧ Float.ofInt n = packed u := by
  rcases lt_trichotomy n 0 with below | rfl | above
  · obtain ⟨k, rfl⟩ := Int.eq_negSucc_of_lt_zero below
    obtain ⟨M, E, placed, value, same⟩ := ofNat_packed (Nat.succ_pos k)
    refine ⟨_, .finite .negative placed value (nearest_apply .negative (k + 1)).symm, ?_⟩
    rw [← neg_packed_placed placed, ← same]
    rfl
  · exact ⟨.zero .positive, .zero _ (by decide +kernel), eq_of_bits (by decide +kernel)⟩
  · obtain ⟨k, rfl⟩ := Int.eq_ofNat_of_zero_le above.le
    obtain ⟨M, E, placed, value, same⟩ := ofNat_packed (Int.natCast_pos.mp above)
    exact ⟨_, .finite .positive placed value (nearest_apply .positive k).symm, same⟩

/-- Some float stands for the whole number. -/
def Representable (n : Int) : Prop := ∃ x, wholePart? x = some n

/-- What a whole number is rounded to lies in the range of floats. -/
def InRange (n : Int) : Prop := (nearest n).natAbs < floatBound

instance (n : Int) : Decidable (InRange n) := inferInstanceAs (Decidable (_ < _))

theorem nearest_representable (inside : InRange n) : Representable (nearest n) := by
  obtain ⟨u, means, -⟩ := ofInt_packed n
  exact ⟨_, means.wholePart?_packed inside⟩

theorem representable_iff : Representable n ↔ nearest n = n ∧ InRange n := by
  constructor
  · rintro ⟨x, whole⟩
    obtain ⟨u, means, rfl, -⟩ := exists_means whole
    refine ⟨means.nearest_eq, ?_⟩
    rw [InRange, means.nearest_eq]
    by_contra beyond
    have infinite := parts_infinite.mpr (means.packed_eq (not_lt.mp beyond))
    rw [wholePart?, infinite] at whole
    cases whole
  · rintro ⟨same, inside⟩
    exact same ▸ nearest_representable inside

theorem representable_of_small (small : n.natAbs ≤ 2 ^ 53) : Representable n := by
  have fixed : nearestNat n.natAbs = n.natAbs := by
    apply nearestNat_eq
    rcases small.lt_or_eq with less | full
    · exact spacing_dvd (E := 0) (by rw [zpow_zero, mul_one]) less
    · exact spacing_dvd (M := 2 ^ 52) (E := 1) (by rw [full]; norm_num) (by decide)
  have same : nearest n = n := by
    rw [nearest, fixed]
    exact Int.sign_mul_natAbs n
  refine representable_iff.mpr ⟨same, ?_⟩
  have below : ((2 ^ 53 : Nat) : ℚ) < floatBound := by
    rw [floatBound_cast]
    exact_mod_cast zpow_lt_zpow_right₀ (show (1 : ℚ) < 2 by norm_num)
      (show (53 : Int) < 1024 by decide)
  rw [InRange, same]
  exact small.trans_lt (by exact_mod_cast below)

theorem abs_nearest_sub (n : Int) :
    |nearest n - n| = |(nearestNat n.natAbs : Int) - n.natAbs| := by
  rcases n.natAbs_eq with same | same
  · have known := nearest_apply .positive n.natAbs
    rw [Sign.apply, Sign.apply, ← same] at known
    rw [known, ← same]
  · have known := nearest_apply .negative n.natAbs
    rw [Sign.apply, Sign.apply, ← same] at known
    rw [known, ← abs_neg]
    congr 1
    omega

/-- No float stands for a whole number that is nearer. -/
theorem nearest_le (representable : Representable b) (n : Int) : |nearest n - n| ≤ |b - n| := by
  obtain ⟨x, whole⟩ := representable
  obtain ⟨u, means, -⟩ := exists_means whole
  obtain ⟨M, E, small, size⟩ : ∃ (M : Nat) (E : Int), M < 2 ^ 53 ∧ (M : ℚ) * 2 ^ E = b.natAbs := by
    cases means with
    | zero s null => exact ⟨0, 0, by omega, by simp [null]⟩
    | @finite s k M E placed size sign =>
        refine ⟨M, E, placed.small, ?_⟩
        rw [← sign, natAbs_apply, size]
  rw [abs_nearest_sub]
  refine (nearestNat_le size small n.natAbs).trans ?_
  rw [Int.natCast_natAbs, Int.natCast_natAbs]
  exact abs_abs_sub_abs_le b n

/-! ## Conversion of whole numbers -/

theorem floatOfInt?_inRange (inside : InRange n) :
    ∃ x, floatOfInt? n = some x ∧ wholePart? x = some (nearest n) := by
  obtain ⟨u, means, same⟩ := ofInt_packed n
  have whole := means.wholePart?_packed inside
  obtain ⟨negative, M, E, found⟩ := parts_of_whole whole
  have finite : isFiniteFloat (packed u) = true := by
    rw [isFiniteFloat, found]
  refine ⟨packed u, ?_, whole⟩
  rw [floatOfInt?, same, if_pos finite]

theorem floatOfInt?_beyond (beyond : ¬ InRange n) : floatOfInt? n = none := by
  obtain ⟨u, means, same⟩ := ofInt_packed n
  have infinite := parts_infinite.mpr (means.packed_eq (not_lt.mp beyond))
  have finite : isFiniteFloat (packed u) = false := by
    rw [isFiniteFloat, infinite]
  rw [floatOfInt?, same, if_neg (by rw [finite]; decide)]

end Means
end Datacube.Number
