import BinaryQuadratic.Proofs.Format.Rounding

/-!
# Sums and products in a format

What adding a zero, multiplying by one and multiplying by zero do, special numbers included, and that a sum is the
negative zero only if its first term is.
-/

namespace BinaryQuadratic.Unpacked

open Float.Model (Format UnpackedFloat totalExponent)
open Float.Model.UnpackedFloat

variable {spec : Format}

/-- The value one of a format. -/
def one (spec : Format) : UnpackedFloat :=
  .finite .positive (2 ^ spec.mantissaBitsWithoutImplicit) (-spec.mantissaBitsWithoutImplicit) (Nat.two_pow_pos _)

theorem unpack_pack_one (wide : 2 ≤ spec.exponentBits) : unpack spec (pack spec (one spec)) = one spec := by
  have room := Nat.pow_le_pow_right (show 0 < 2 by decide) wide
  have double : 2 ^ spec.exponentBits = 2 * 2 ^ (spec.exponentBits - 1) := by
    rw [← Nat.pow_succ', Nat.succ_eq_add_one, Nat.sub_add_cancel spec.he]
  have bias : spec.exponentBias = 2 ^ (spec.exponentBits - 1) - 1 := rfl
  have exponent : (-(spec.mantissaBitsWithoutImplicit : Int) + spec.exponentBias
      + spec.mantissaBitsWithoutImplicit).toNat = spec.exponentBias := by omega
  have width : spec.mantissaBits = 1 + spec.mantissaBitsWithoutImplicit := rfl
  -- the stored exponent is the bias, which is neither that of special numbers nor that of zeros
  have stored : (BitVec.ofNat spec.exponentBits spec.exponentBias).toNat = spec.exponentBias := by
    rw [BitVec.toNat_ofNat, Nat.mod_eq_of_lt (by omega)]
  have regular : BitVec.ofNat spec.exponentBits spec.exponentBias ≠ -1#_ := by
    intro same
    have values := congrArg BitVec.toNat same
    rw [stored, BitVec.neg_one_eq_allOnes, BitVec.toNat_allOnes] at values
    omega
  have nonzero : BitVec.ofNat spec.exponentBits spec.exponentBias ≠ 0#_ := by
    intro same
    have values := congrArg BitVec.toNat same
    rw [stored, BitVec.toNat_ofNat, Nat.zero_mod] at values
    omega
  have packed : pack spec (one spec) = packComponents spec .positive (BitVec.ofNat _ spec.exponentBias)
      (BitVec.ofNat _ (2 ^ spec.mantissaBitsWithoutImplicit)) := by
    simp only [one, pack, exponent, Nat.log2_two_pow]
    rw [if_neg (by omega), if_pos (by omega)]
  rw [packed]
  simp only [unpack, unpackExponent_packComponents, unpackMantissa_packComponents, unpackSign_packComponents,
    Sign.ofBitVec_toBitVec]
  rw [if_neg regular, if_neg nonzero]
  simp only [toNat_implicit, stored, one, UnpackedFloat.finite.injEq, true_and]
  constructor
  · rw [BitVec.toNat_ofNat, Nat.mod_self, Nat.add_zero]
  · omega

theorem mul_one {u : UnpackedFloat} (h : IsCanonical spec u) : mul spec u (one spec) = u := by
  cases u with
  | infinity sign => cases sign <;> rfl
  | notANumber => rfl
  | zero sign => cases sign <;> rfl
  | finite sign m e pos =>
    have positive : sign * .positive = sign := by cases sign <;> rfl
    rw [one, mul, positive]
    exact roundWithAccuracy_mul_two_pow h _

theorem one_mul {u : UnpackedFloat} (h : IsCanonical spec u) : mul spec (one spec) u = u := by
  cases u with
  | infinity sign => cases sign <;> rfl
  | notANumber => rfl
  | zero sign => cases sign <;> rfl
  | finite sign m e pos =>
    have positive : .positive * sign = sign := by cases sign <;> rfl
    rw [one, mul, positive, Nat.mul_comm, Int.add_comm]
    exact roundWithAccuracy_mul_two_pow h _

theorem zero_mul (u : UnpackedFloat) : mul spec (.zero .positive) u = mul spec u (.zero .positive) := by
  cases u with
  | infinity sign => rfl
  | notANumber => rfl
  | zero sign => cases sign <;> rfl
  | finite sign m e pos => cases sign <;> rfl

/-- A product with zero is a zero or undefined. -/
theorem mul_zero_cases (u : UnpackedFloat) (spec : Format) :
    (∃ sign, mul spec u (.zero .positive) = .zero sign) ∨ mul spec u (.zero .positive) = .notANumber := by
  cases u with
  | infinity sign => exact Or.inr rfl
  | notANumber => exact Or.inr rfl
  | zero sign => exact Or.inl ⟨_, rfl⟩
  | finite sign m e pos => exact Or.inl ⟨_, rfl⟩

theorem add_zero {u : UnpackedFloat} (sign : Sign) (h : u ≠ .zero .negative) : add spec u (.zero sign) = u := by
  cases u with
  | infinity => rfl
  | notANumber => rfl
  | zero own =>
    cases own with
    | negative => exact absurd rfl h
    | positive => cases sign <;> rfl
  | finite => rfl

theorem add_notANumber (u : UnpackedFloat) : add spec u .notANumber = .notANumber := by
  cases u <;> rfl

theorem mul_notANumber (u : UnpackedFloat) : mul spec u .notANumber = .notANumber := by
  cases u <;> rfl

theorem notANumber_add (u : UnpackedFloat) : add spec .notANumber u = .notANumber := by
  cases u <;> rfl

theorem notANumber_mul (u : UnpackedFloat) : mul spec .notANumber u = .notANumber := by
  cases u <;> rfl

/-- A sum whose terms cancel is the positive zero, and no other sum of finite numbers is a zero. -/
theorem pack_normalize_ne (mantissa : Int) {e : Int} (low : spec.minExponent ≤ e) :
    pack spec (normalize spec mantissa e .positive) ≠ packedZero spec .negative := by
  have nonzero {sign : Sign} {m : Nat} (pos : 0 < m) :
      pack spec (round spec sign m e) ≠ packedZero spec .negative := by
    obtain ⟨m', e', pos', same, short, low'⟩ := round_finite sign pos low
    rw [same]
    exact pack_finite_ne_packedZero pos' short low'
  rw [UnpackedFloat.normalize]
  split
  · next order =>
    rw [Int.compare_eq_lt] at order
    exact nonzero (by omega)
  · intro same
    exact Sign.noConfusion (packedZero_injective same)
  · next order =>
    rw [Int.compare_eq_gt] at order
    exact nonzero (by omega)

/-- A sum is the negative zero only if its first term is. -/
theorem eq_negative_of_pack_add {u v : UnpackedFloat} (hu : IsCanonical spec u) (hv : IsCanonical spec v)
    (h : pack spec (add spec u v) = packedZero spec .negative) : u = .zero .negative := by
  have special (sign : Sign) : pack spec (.infinity sign) ≠ packedZero spec .negative :=
    packedInfinity_ne_packedZero sign .negative
  have undefined : pack spec .notANumber ≠ packedZero spec .negative := packedNaN_ne_packedZero .negative
  cases u with
  | notANumber => exact absurd (notANumber_add v ▸ h) undefined
  | infinity sign =>
    cases v with
    | notANumber => exact absurd h undefined
    | infinity sign' =>
      rw [add] at h
      split at h
      · exact absurd h (special _)
      · exact absurd h undefined
    | zero => exact absurd h (special _)
    | finite => exact absurd h (special _)
  | zero sign =>
    cases v with
    | notANumber => exact absurd h undefined
    | infinity => exact absurd h (special _)
    | zero sign' =>
      rw [add] at h
      split at h
      · -- two zeros of one sign
        rw [packedZero_injective h]
      · exact Sign.noConfusion (packedZero_injective h)
    | finite sign' m e pos => exact absurd h (pack_finite_ne_packedZero pos hv.1 hv.2.1)
  | finite sign m e pos =>
    cases v with
    | notANumber => exact absurd h undefined
    | infinity => exact absurd h (special _)
    | zero => exact absurd h (pack_finite_ne_packedZero pos hu.1 hu.2.1)
    | finite sign' m' e' pos' =>
      refine absurd h (pack_normalize_ne _ ?_)
      have := hu.2.1
      have := hv.2.1
      omega

end BinaryQuadratic.Unpacked
