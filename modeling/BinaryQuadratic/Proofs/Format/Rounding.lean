import BinaryQuadratic.Proofs.Format.Packing

/-!
# Rounding to a format

Two facts about rounding. A canonical number that is written with further digits, all of them zero, is rounded to
itself (`roundWithAccuracy_mul_two_pow`). And a number that is not zero, with an exponent the format has, is never
rounded to zero (`round_finite`), so its bits are not those of a zero (`pack_finite_ne_packedZero`).
-/

namespace BinaryQuadratic.Unpacked

open Float.Model (Format UnpackedFloat totalExponent)
open Float.Model.UnpackedFloat

variable {spec : Format}

theorem mantissa_shiftRight (em : ExtendedMantissa) (k : Nat) : (em >>> k).mantissa = em.mantissa / 2 ^ k := by
  induction k with
  | zero => simp [HShiftRight.hShiftRight, Nat.repeat]
  | succ k ih =>
    show (ExtendedMantissa.shiftRightOne (em >>> k)).mantissa = _
    rw [ExtendedMantissa.shiftRightOne, ih, Nat.div_div_eq_div_mul, Nat.pow_succ]

/-- Shifting out zeros only is exact. -/
theorem shiftRight_mul_two_pow (m k : Nat) :
    (⟨m * 2 ^ k, false, false⟩ : ExtendedMantissa) >>> k = ⟨m, false, false⟩ := by
  induction k generalizing m with
  | zero => simp [HShiftRight.hShiftRight, Nat.repeat]
  | succ k ih =>
    show ExtendedMantissa.shiftRightOne ((⟨m * 2 ^ (k + 1), false, false⟩ : ExtendedMantissa) >>> k) = _
    rw [Nat.pow_succ, Nat.mul_comm (2 ^ k) 2, ← Nat.mul_assoc, ih]
    simp [ExtendedMantissa.shiftRightOne]

theorem targetExponent_of_canonical {sign : Sign} {m : Nat} {e : Int} {pos : 0 < m}
    (h : IsCanonical spec (.finite sign m e pos)) : spec.targetExponent (totalExponent m e) = e := by
  obtain ⟨high, low, full⟩ := h
  have width : spec.mantissaBits = 1 + spec.mantissaBitsWithoutImplicit := rfl
  have short : m.log2 < spec.mantissaBits := (Nat.log2_lt (by omega)).2 high
  rw [Format.targetExponent, totalExponent]
  rcases full with normal | least
  · have long : spec.mantissaBitsWithoutImplicit ≤ m.log2 := (Nat.le_log2 (by omega)).2 normal
    omega
  · omega

theorem shiftToTargetExponent_of_canonical {sign : Sign} {m : Nat} {e : Int} {pos : 0 < m}
    (h : IsCanonical spec (.finite sign m e pos)) :
    shiftToTargetExponent spec m e .exact = (⟨m, false, false⟩, e) := by
  rw [shiftToTargetExponent, targetExponent_of_canonical h, shiftToExponent]
  simp [ExtendedMantissa.ofMantissaAndAccuracy, HShiftRight.hShiftRight, Nat.repeat]

theorem log2_mul_two_pow {m : Nat} (h : 0 < m) (k : Nat) : (m * 2 ^ k).log2 = m.log2 + k := by
  have pos := Nat.two_pow_pos k
  refine (Nat.log2_eq_iff (Nat.mul_ne_zero (by omega) (by omega))).2 ⟨?_, ?_⟩
  · rw [Nat.pow_add]
    exact Nat.mul_le_mul_right _ (Nat.log2_self_le (by omega))
  · rw [Nat.add_right_comm, Nat.pow_add]
    exact Nat.mul_lt_mul_of_pos_right Nat.lt_log2_self pos

/-- A canonical number that is written with more digits than it needs is rounded to itself. -/
theorem roundWithAccuracy_mul_two_pow {sign : Sign} {m : Nat} {e : Int} {pos : 0 < m}
    (h : IsCanonical spec (.finite sign m e pos)) (k : Nat) :
    roundWithAccuracy spec sign (m * 2 ^ k) (e - k) .exact = .finite sign m e pos := by
  -- the further digits leave the exponent that the format wants as it is
  have target : spec.targetExponent (totalExponent (m * 2 ^ k) (e - k)) = e := by
    have same : totalExponent (m * 2 ^ k) (e - k) = totalExponent m e := by
      rw [totalExponent, totalExponent, log2_mul_two_pow pos]
      omega
    rw [same, targetExponent_of_canonical h]
  -- and the first shift takes out just these digits
  have first : shiftToTargetExponent spec (m * 2 ^ k) (e - k) .exact = (⟨m, false, false⟩, e) := by
    rw [shiftToTargetExponent, target, shiftToExponent]
    have amount : (e - (e - k)).toNat = k := by omega
    simp only [amount, ExtendedMantissa.ofMantissaAndAccuracy, shiftRight_mul_two_pow]
    simp
  have rounded : (⟨m, false, false⟩ : ExtendedMantissa).roundedMantissa = m := rfl
  simp only [roundWithAccuracy, first, rounded, shiftToTargetExponent_of_canonical h]
  rw [dif_neg (by omega)]

theorem le_roundToNearestEven (m : Nat) (accuracy : Accuracy) : m ≤ accuracy.roundToNearestEven m := by
  cases accuracy with
  | exact => exact Nat.le_refl m
  | inexact order => cases order <;> simp [Accuracy.roundToNearestEven]

/-- Bringing a positive mantissa to the exponent its format wants keeps it positive and makes it short enough. -/
theorem shifted_mantissa_bounds {m : Nat} {e : Int} (pos : 0 < m) (low : spec.minExponent ≤ e) :
    0 < m / 2 ^ (spec.targetExponent (totalExponent m e) - e).toNat ∧
      m / 2 ^ (spec.targetExponent (totalExponent m e) - e).toNat < 2 ^ spec.mantissaBits := by
  have width : spec.mantissaBits = 1 + spec.mantissaBitsWithoutImplicit := rfl
  have amount : (spec.targetExponent (totalExponent m e) - e).toNat = m.log2 + 1 - spec.mantissaBits := by
    rw [Format.targetExponent, totalExponent]
    omega
  have lower := Nat.log2_self_le (n := m) (by omega)
  have upper := Nat.lt_log2_self (n := m)
  rw [amount]
  constructor
  · refine Nat.div_pos (Nat.le_trans ?_ lower) (Nat.two_pow_pos _)
    exact Nat.pow_le_pow_right (by omega) (by omega)
  · rw [Nat.div_lt_iff_lt_mul (Nat.two_pow_pos _), ← Nat.pow_add]
    exact Nat.lt_of_lt_of_le upper (Nat.pow_le_pow_right (by omega) (by omega))

/-- Nothing from the least exponent up is rounded to zero. -/
theorem roundWithAccuracy_finite {sign : Sign} {m : Nat} {e : Int} (pos : 0 < m) (low : spec.minExponent ≤ e)
    (accuracy : Accuracy) :
    ∃ m' e' pos', roundWithAccuracy spec sign m e accuracy = .finite sign m' e' pos' ∧
      m' < 2 ^ spec.mantissaBits ∧ spec.minExponent ≤ e' := by
  have start : (ExtendedMantissa.ofMantissaAndAccuracy m accuracy).mantissa = m := by
    cases accuracy with
    | exact => rfl
    | inexact order => cases order <;> rfl
  -- the mantissa is rounded after the first shift, and never down
  have rounded : 0 < (shiftToTargetExponent spec m e accuracy).1.roundedMantissa := by
    refine Nat.lt_of_lt_of_le ?_ (le_roundToNearestEven _ _)
    rw [shiftToTargetExponent, shiftToExponent, mantissa_shiftRight, start]
    exact (shifted_mantissa_bounds pos low).1
  have raised : spec.minExponent ≤ (shiftToTargetExponent spec m e accuracy).2 := by
    rw [shiftToTargetExponent, shiftToExponent]
    omega
  simp only [roundWithAccuracy]
  generalize shiftToTargetExponent spec m e accuracy = first at rounded raised
  -- the second shift makes room for a carry
  obtain ⟨kept, short⟩ := shifted_mantissa_bounds rounded raised
  have final : ∀ r, (ExtendedMantissa.ofMantissaAndAccuracy r .exact).mantissa = r := fun _ => rfl
  simp only [shiftToTargetExponent, shiftToExponent, mantissa_shiftRight, final]
  rw [dif_neg (Nat.pos_iff_ne_zero.1 kept)]
  exact ⟨_, _, kept, rfl, short, by omega⟩

theorem round_finite (sign : Sign) {m : Nat} {e : Int} (pos : 0 < m) (low : spec.minExponent ≤ e) :
    ∃ m' e' pos', round spec sign m e = .finite sign m' e' pos' ∧ m' < 2 ^ spec.mantissaBits ∧
      spec.minExponent ≤ e' := by
  simp only [UnpackedFloat.round, decreaseExponent]
  refine roundWithAccuracy_finite ?_ ?_ .exact
  · rw [Nat.shiftLeft_eq]
    exact Nat.mul_pos pos (Nat.two_pow_pos _)
  · rw [Format.targetExponent]
    omega

/-- A finite number that is not zero has other bits than zero. -/
theorem pack_finite_ne_packedZero {sign zeroSign : Sign} {m : Nat} {e : Int} (pos : 0 < m)
    (short : m < 2 ^ spec.mantissaBits) (low : spec.minExponent ≤ e) :
    pack spec (.finite sign m e pos) ≠ packedZero spec zeroSign := by
  intro same
  have width : spec.mantissaBits = 1 + spec.mantissaBitsWithoutImplicit := rfl
  have exponent := congrArg (BitVec.toNat ∘ unpackExponent) same
  have mantissa := congrArg (BitVec.toNat ∘ unpackMantissa) same
  have least := minExponent_eq spec
  have wide := Nat.one_lt_two_pow (Nat.pos_iff_ne_zero.1 spec.he)
  simp only [pack, Function.comp_apply] at exponent mantissa
  split at exponent
  · -- too large: it has the exponent of infinity
    simp only [packedInfinity, packedZero, unpackExponent_packComponents, BitVec.neg_one_eq_allOnes,
      BitVec.toNat_allOnes, BitVec.ofNat_eq_ofNat, BitVec.toNat_ofNat, Nat.zero_mod] at exponent
    omega
  · next small =>
    rw [if_neg small] at mantissa
    split at exponent
    · -- normal: its exponent is not that of zero
      simp [packedZero] at exponent
      rw [Nat.mod_eq_of_lt (by omega)] at exponent
      omega
    · next abnormal =>
      -- subnormal: it has the exponent of zero, but another mantissa
      rw [if_neg abnormal] at mantissa
      have shorter : m.log2 < spec.mantissaBits := (Nat.log2_lt (by omega)).2 short
      have least : m < 2 ^ spec.mantissaBitsWithoutImplicit := (Nat.log2_lt (by omega)).1 (by omega)
      simp [packedZero] at mantissa
      rw [Nat.mod_eq_of_lt least] at mantissa
      omega

end BinaryQuadratic.Unpacked
