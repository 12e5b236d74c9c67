import Datacube.Number.Binary
import Datacube.Proofs.Number.Rounding

/-!
# Floats and their parts

The sign, the exponent and the mantissa of a finite float determine its bits, so a float is known
from its parts; and what the arithmetic of floats packs into bits comes out of them unchanged.
-/

namespace Datacube.Number
open Float.Model Float.Model.UnpackedFloat

variable {M : Nat} {E : Int} {s : Sign}

/-- The bits of a finite float. The first bit of a full mantissa adds one to the exponent. -/
def bitsOf (negative : Bool) (M : Nat) (E : Int) : Nat :=
  (if negative then 2 ^ 63 else 0) + (E + 1074).toNat * 2 ^ 52 + M

def isNegative : Sign → Bool
  | .negative => true
  | .positive => false

/-! ## Packing -/

theorem toNat_packComponents (s : Sign) (e : BitVec 11) (m : BitVec 52) :
    (packComponents Format.binary64 s e m).toNat =
      (if isNegative s then 2 ^ 63 else 0) + e.toNat * 2 ^ 52 + m.toNat := by
  have he := e.isLt
  have hm := m.isLt
  rw [packComponents, BitVec.toNat_append, BitVec.toNat_append, ← Nat.shiftLeft_add_eq_or_of_lt hm,
    ← Nat.shiftLeft_add_eq_or_of_lt he, Nat.shiftLeft_eq, Nat.shiftLeft_eq]
  cases s with
  | negative =>
      simp only [isNegative, Sign.toBitVec, if_true, BitVec.toNat_ofNat]
      omega
  | positive =>
      simp only [isNegative, Sign.toBitVec, Bool.false_eq_true, if_false, BitVec.toNat_ofNat]
      omega

theorem toNat_pack (canonical : Canonical M E) :
    (UnpackedFloat.pack Format.binary64 (.finite s M E canonical.positive)).toNat =
      bitsOf (isNegative s) M E := by
  obtain ⟨positive, small, least, greatest, full⟩ := canonical
  have bias : (Format.binary64.exponentBias : Int) = 1023 := by decide
  have bits : Format.binary64.mantissaBits = 53 := by decide
  have biased :
      (E + Format.binary64.exponentBias + Format.binary64.mantissaBitsWithoutImplicit).toNat =
        (E + 1075).toNat := by
    rw [bias]
    congr 1
    change E + 1023 + 52 = _
    ring
  rw [UnpackedFloat.pack]
  simp only [biased, bits]
  rw [if_neg (by omega)]
  split_ifs with normal
  · have large : 2 ^ 52 ≤ M := (Nat.le_log2 positive.ne').mp (by omega)
    rw [toNat_packComponents, BitVec.toNat_ofNat, BitVec.toNat_ofNat, bitsOf]
    omega
  · have less : M < 2 ^ 52 := by
      rw [← Nat.log2_lt positive.ne']
      have := (Nat.log2_lt positive.ne').mpr small
      omega
    rw [toNat_packComponents, BitVec.toNat_ofNat, BitVec.toNat_ofNat, bitsOf]
    omega

theorem toNat_pack_zero :
    (UnpackedFloat.pack Format.binary64 (.zero s)).toNat = bitsOf (isNegative s) 0 (-1074) := by
  cases s <;> decide

/-! ## Unpacking -/

section Unpack
variable {b : BitVec Format.binary64.numBits}

theorem toNat_unpackMantissa : (unpackMantissa b).toNat = b.toNat % 2 ^ 52 := by
  simp [unpackMantissa]

theorem toNat_unpackExponent : (unpackExponent b).toNat = b.toNat / 2 ^ 52 % 2 ^ 11 := by
  simp [unpackExponent, Nat.shiftRight_eq_div_pow]

theorem toNat_unpackSign : (unpackSign b).toNat = b.toNat / 2 ^ 63 % 2 := by
  simp [unpackSign, Nat.shiftRight_eq_div_pow]

theorem ofBitVec_unpackSign {rest : Nat} (small : rest < 2 ^ 63)
    (bits : b.toNat = (if isNegative s then 2 ^ 63 else 0) + rest) :
    Sign.ofBitVec (unpackSign b) = s := by
  have bit : (unpackSign b).toNat = if isNegative s then 1 else 0 := by
    rw [toNat_unpackSign, bits]
    split <;> omega
  rw [Sign.ofBitVec]
  cases s with
  | negative =>
      rw [if_neg]
      intro zero
      simp [zero, isNegative] at bit
  | positive =>
      rw [if_pos]
      exact BitVec.eq_of_toNat_eq bit

theorem unpack_eq (canonical : Canonical M E) (bits : b.toNat = bitsOf (isNegative s) M E) :
    UnpackedFloat.unpack Format.binary64 b = .finite s M E canonical.positive := by
  obtain ⟨positive, small, least, greatest, full⟩ := canonical
  have bias : (Format.binary64.exponentBias : Int) = 1023 := by decide
  rw [bitsOf, add_assoc] at bits
  have sign := ofBitVec_unpackSign (by omega) bits
  have ones : (-1#11 : BitVec 11).toNat = 2047 := by decide
  by_cases large : 2 ^ 52 ≤ M
  · have exponent : (unpackExponent b).toNat = (E + 1075).toNat := by
      rw [toNat_unpackExponent, bits]
      split <;> omega
    have mantissa : (1#1 ++ unpackMantissa b).toNat = M := by
      rw [BitVec.toNat_append, ← Nat.shiftLeft_add_eq_or_of_lt (unpackMantissa b).isLt,
        toNat_unpackMantissa, bits, Nat.shiftLeft_eq]
      change 1 * 2 ^ 52 + _ = M
      split <;> omega
    have finite : unpackExponent b ≠ -1#11 := fun same => by
      rw [same, ones] at exponent
      omega
    have normal : unpackExponent b ≠ 0#11 := fun same => by
      rw [same, BitVec.toNat_zero] at exponent
      omega
    rw [UnpackedFloat.unpack]
    simp only [if_neg finite, if_neg normal, sign, exponent, mantissa, bias]
    congr 1
    omega
  · obtain rfl := full.resolve_left large
    have exponent : unpackExponent b = 0#11 := by
      apply BitVec.eq_of_toNat_eq
      rw [toNat_unpackExponent, bits, BitVec.toNat_zero]
      split <;> omega
    have mantissa : (unpackMantissa b).toNat = M := by
      rw [toNat_unpackMantissa, bits]
      split <;> omega
    have nonzero : unpackMantissa b ≠ 0#52 := fun same => by
      rw [same, BitVec.toNat_zero] at mantissa
      omega
    have finite : (0#11 : BitVec 11) ≠ -1#11 := by decide
    rw [UnpackedFloat.unpack]
    simp only [exponent, if_neg finite, if_true, dif_neg nonzero, sign, mantissa, bias]
    rfl

end Unpack

/-! ## Floats -/

/-- The float that an arithmetic result is packed into. -/
def packed (result : UnpackedFloat) : Float := .ofModel (.pack result)

theorem eq_of_bits {x y : Float} (same : x.toBits.toNat = y.toBits.toNat) : x = y :=
  Float.toBits_inj.mp (UInt64.toNat_inj.mp same)

theorem toBits_packed (canonical : Canonical M E) :
    (packed (.finite s M E canonical.positive)).toBits.toNat = bitsOf (isNegative s) M E :=
  toNat_pack canonical

theorem toBits_packed_zero : (packed (.zero s)).toBits.toNat = bitsOf (isNegative s) 0 (-1074) :=
  toNat_pack_zero

theorem unpack_of_bits {x : Float} (canonical : Canonical M E)
    (bits : x.toBits.toNat = bitsOf (isNegative s) M E) :
    x.toModel.unpack = .finite s M E canonical.positive :=
  unpack_eq canonical bits

theorem unpack_packed (canonical : Canonical M E) :
    (packed (.finite s M E canonical.positive)).toModel.unpack =
      .finite s M E canonical.positive :=
  unpack_of_bits canonical (toBits_packed canonical)

theorem unpack_packed_zero : (packed (.zero s)).toModel.unpack = .zero s := by
  cases s <;> rfl

def signOf (negative : Bool) : Sign := if negative then .negative else .positive

theorem isNegative_signOf (negative : Bool) : isNegative (signOf negative) = negative := by
  cases negative <;> rfl

theorem neg_packed (canonical : Canonical M E) :
    -packed (.finite .positive M E canonical.positive) =
      packed (.finite .negative M E canonical.positive) := by
  change packed (UnpackedFloat.neg (packed _).toModel.unpack) = _
  rw [unpack_packed canonical]
  rfl

theorem signOf_isNegative (s : Sign) : signOf (isNegative s) = s := by
  cases s <;> rfl

/-- The parts of a finite float and its bits tell the same. -/
theorem parts_finite {x : Float} {negative : Bool}
    (found : parts x = .finite ⟨negative, M, E⟩) :
    x.toBits.toNat = bitsOf negative M E ∧ (M = 0 ∧ E = -1074 ∨ Canonical M E) := by
  have limit := x.toBits.toNat_lt
  rw [parts] at found
  simp only [Nat.pow_eq] at found
  split_ifs at found with top special bottom
  · cases found
    simp only [bitsOf, beq_iff_eq]
    refine ⟨?_, ?_⟩
    · split <;> omega
    · rcases Nat.eq_zero_or_pos (x.toBits.toNat % 2 ^ 52) with zero | positive
      · exact .inl ⟨zero, trivial⟩
      · exact .inr ⟨positive, by omega, le_rfl, by omega, .inr rfl⟩
  · cases found
    simp only [bitsOf, beq_iff_eq]
    refine ⟨?_, .inr ⟨by omega, by omega, by omega, by omega, .inl (by omega)⟩⟩
    split <;> omega

/-- A float with the bits of a sign, a mantissa and an exponent has them as its parts. -/
theorem parts_of_bits {x : Float} {negative : Bool} (bits : x.toBits.toNat = bitsOf negative M E)
    (proper : M = 0 ∧ E = -1074 ∨ Canonical M E) : parts x = .finite ⟨negative, M, E⟩ := by
  have range : M < 2 ^ 53 ∧ -1074 ≤ E ∧ E ≤ 971 ∧ (2 ^ 52 ≤ M ∨ E = -1074) := by
    rcases proper with ⟨rfl, rfl⟩ | ⟨-, small, least, greatest, full⟩
    · omega
    · exact ⟨small, least, greatest, full⟩
  obtain ⟨small, least, greatest, full⟩ := range
  have top : bitsOf negative M E / 2 ^ 63 = if negative then 1 else 0 := by
    rw [bitsOf]
    split <;> omega
  have sign : (bitsOf negative M E / 2 ^ 63 == 1) = negative := by
    rw [top]
    cases negative <;> rfl
  rw [parts]
  simp only [bits, Nat.pow_eq, sign]
  by_cases large : 2 ^ 52 ≤ M
  · have exponent : bitsOf negative M E / 2 ^ 52 % 2 ^ 11 = (E + 1075).toNat := by
      rw [bitsOf]
      split <;> omega
    have fraction : bitsOf negative M E % 2 ^ 52 = M - 2 ^ 52 := by
      rw [bitsOf]
      split <;> omega
    rw [exponent, fraction, if_neg (by omega), if_neg (by omega)]
    rw [Nat.add_sub_cancel' large, show ((E + 1075).toNat : Int) - 1075 = E by omega]
  · obtain rfl := full.resolve_left large
    have exponent : bitsOf negative M (-1074) / 2 ^ 52 % 2 ^ 11 = 0 := by
      rw [bitsOf]
      split <;> omega
    have fraction : bitsOf negative M (-1074) % 2 ^ 52 = M := by
      rw [bitsOf]
      split <;> omega
    rw [exponent, fraction, if_neg (by omega), if_pos rfl]

theorem eq_packed {x : Float} {negative : Bool} (canonical : Canonical M E)
    (found : parts x = .finite ⟨negative, M, E⟩) :
    x = packed (.finite (signOf negative) M E canonical.positive) := by
  apply eq_of_bits
  rw [(parts_finite found).1, toBits_packed canonical, isNegative_signOf]

theorem eq_packed_zero {x : Float} {negative : Bool} (found : parts x = .finite ⟨negative, 0, E⟩) :
    x = packed (.zero (signOf negative)) := by
  have either := (parts_finite found).2
  have least : E = -1074 := by
    rcases either with ⟨-, least⟩ | canonical
    · exact least
    · exact absurd canonical.positive (Nat.lt_irrefl 0)
  apply eq_of_bits
  rw [(parts_finite found).1, toBits_packed_zero, isNegative_signOf, least]

/-! ## Infinite floats -/

theorem toBits_packed_infinity :
    (packed (.infinity s)).toBits.toNat = (if isNegative s then 2 ^ 63 else 0) + 2047 * 2 ^ 52 := by
  cases s <;> decide +kernel

theorem unpack_packed_infinity : (packed (.infinity s)).toModel.unpack = .infinity s := by
  cases s <;> rfl

theorem parts_infinite {x : Float} {negative : Bool} :
    parts x = .infinite negative ↔ x = packed (.infinity (signOf negative)) := by
  have bits := toBits_packed_infinity (s := signOf negative)
  rw [isNegative_signOf] at bits
  constructor
  · intro found
    have limit := x.toBits.toNat_lt
    apply eq_of_bits
    rw [parts] at found
    simp only [Nat.pow_eq] at found
    rw [bits]
    split_ifs at found with top special
    cases found
    simp only [beq_iff_eq]
    split <;> omega
  · rintro rfl
    rw [parts]
    simp only [bits, Nat.pow_eq]
    cases negative <;> rfl

/-- What is too large for the exponent of a float is packed as infinite. -/
theorem packed_beyond {M : Nat} {E : Int} (positive : 0 < M) (beyond : 972 ≤ E) :
    packed (.finite s M E positive) = packed (.infinity s) := by
  have bias : (Format.binary64.exponentBias : Int) = 1023 := by decide
  have bits : Format.binary64.mantissaBits = 53 := by decide
  apply eq_of_bits
  change (UnpackedFloat.pack Format.binary64 _).toNat = (UnpackedFloat.pack Format.binary64 _).toNat
  rw [UnpackedFloat.pack, UnpackedFloat.pack]
  simp only [bias]
  rw [if_pos]
  change 2 ^ 11 ≤ (E + 1023 + 52).toNat + 1
  omega
end Datacube.Number
