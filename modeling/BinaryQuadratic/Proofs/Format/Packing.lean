import BinaryQuadratic.Index
import Mathlib

/-!
# Numbers and their bits

A number of an IEEE format is kept as bits, and is unpacked into sign, mantissa and exponent before anything is
computed with it. Unpacking gives canonical numbers only: the mantissa is as long as the format allows, unless the
exponent is the least there is. Zeros, infinities and undefined numbers differ in their bits, and a change of sign is a
change of one bit.
-/

namespace BinaryQuadratic.Unpacked

open Float.Model (Format UnpackedFloat totalExponent)
open Float.Model.UnpackedFloat

variable {spec : Format}

/-- A number as unpacking gives it: short enough, and of full length unless its exponent is the least one. -/
def IsCanonical (spec : Format) : UnpackedFloat → Prop
  | .finite _ m e _ =>
    m < 2 ^ spec.mantissaBits ∧ spec.minExponent ≤ e ∧
      (2 ^ spec.mantissaBitsWithoutImplicit ≤ m ∨ e = spec.minExponent)
  | _ => True

theorem minExponent_eq (spec : Format) :
    spec.minExponent = 1 - (spec.exponentBias : Int) - spec.mantissaBitsWithoutImplicit := by
  have pos := Nat.two_pow_pos (spec.exponentBits - 1)
  have cast : ((2 ^ (spec.exponentBits - 1) : Nat) : Int) = 2 ^ (spec.exponentBits - 1) := Int.natCast_pow 2 _
  simp only [Format.minExponent, Format.exponentBias, Format.mantissaBits]
  omega

theorem toNat_implicit {width : Nat} (m : BitVec width) : (1#1 ++ m).toNat = 2 ^ width + m.toNat := by
  rw [BitVec.toNat_append, ← Nat.shiftLeft_add_eq_or_of_lt m.isLt, Nat.shiftLeft_eq]
  simp

theorem isCanonical_unpack (b : BitVec spec.numBits) : IsCanonical spec (unpack spec b) := by
  have width : 2 ^ spec.mantissaBits = 2 * 2 ^ spec.mantissaBitsWithoutImplicit := by
    rw [Format.mantissaBits, Nat.pow_add]
  have bound := (unpackMantissa b).isLt
  simp only [unpack]
  split
  · -- infinity or undefined
    split <;> trivial
  · split
    · split
      · trivial
      · next zero _ =>
        -- no implicit digit: the exponent is the least one
        rw [IsCanonical, zero, minExponent_eq]
        simp
        omega
    · next nonzero =>
      -- the implicit digit makes the mantissa full
      rw [IsCanonical, toNat_implicit, minExponent_eq]
      have pos : 0 < (unpackExponent b).toNat := by
        rw [Nat.pos_iff_ne_zero]
        intro h
        exact nonzero (BitVec.eq_of_toNat_eq (by simpa using h))
      omega

/-! ## Special numbers -/

theorem packedZero_injective {a b : Sign} (h : packedZero spec a = packedZero spec b) : a = b := by
  have signs := congrArg unpackSign h
  rw [packedZero, packedZero, unpackSign_packComponents, unpackSign_packComponents] at signs
  cases a <;> cases b <;> first | rfl | exact absurd signs (by decide)

/-- The exponent of special numbers is not that of zeros. -/
theorem allOnes_ne_zero : (-1#_ : BitVec spec.exponentBits) ≠ 0#_ := by
  intro same
  have equal := congrArg BitVec.toNat same
  have large := Nat.one_lt_two_pow (Nat.pos_iff_ne_zero.1 spec.he)
  rw [BitVec.neg_one_eq_allOnes, BitVec.toNat_allOnes, BitVec.toNat_ofNat, Nat.zero_mod] at equal
  omega

theorem packedInfinity_ne_packedZero (a b : Sign) : packedInfinity spec a ≠ packedZero spec b := by
  intro same
  have exponents := congrArg unpackExponent same
  simp only [packedInfinity, packedZero, unpackExponent_packComponents] at exponents
  exact allOnes_ne_zero exponents

theorem packedNaN_ne_packedZero (sign : Sign) : packedNaN spec ≠ packedZero spec sign := by
  intro same
  have exponents := congrArg unpackExponent same
  simp only [packedNaN, packedZero, unpackExponent_packComponents] at exponents
  exact allOnes_ne_zero exponents

theorem unpack_packedInfinity (sign : Sign) : unpack spec (packedInfinity spec sign) = .infinity sign := by
  simp [unpack, packedInfinity]

/-! ## Signs -/

/-- The bits with the other sign. -/
def oppositeBits (b : BitVec spec.numBits) : BitVec spec.numBits :=
  packComponents spec (-Sign.ofBitVec (unpackSign b)) (unpackExponent b) (unpackMantissa b)

theorem unpack_oppositeBits (b : BitVec spec.numBits) : unpack spec (oppositeBits b) = neg (unpack spec b) := by
  unfold unpack oppositeBits
  simp only [unpackExponent_packComponents, unpackMantissa_packComponents, unpackSign_packComponents,
    Sign.ofBitVec_toBitVec]
  split
  · split <;> rfl
  · split
    · split <;> rfl
    · rfl

/-- A number that was unpacked can be packed with the other sign. -/
theorem unpack_pack_neg (b : BitVec spec.numBits) (wide : 2 ≤ spec.exponentBits) :
    unpack spec (pack spec (neg (unpack spec b))) = neg (unpack spec b) := by
  by_cases undefined : unpack spec b = .notANumber
  · rw [undefined]
    exact unpack_packedNaN
  · have valid : spec.Valid (oppositeBits b) := by
      constructor
      intro exponent mantissa
      refine absurd ?_ undefined
      rw [oppositeBits, unpackExponent_packComponents] at exponent
      rw [oppositeBits, unpackMantissa_packComponents] at mantissa
      simp only [unpack, exponent, mantissa, ↓reduceIte]
    rw [← unpack_oppositeBits, pack_unpack_of_valid valid wide]

end BinaryQuadratic.Unpacked
