import BinaryQuadratic.Proofs.Format.Arithmetic
import BinaryQuadratic.Proofs.Format.Order
import BinaryQuadratic.Proofs.Scalar.Ieee

/-!
# Numbers kept as bits

Numbers whose operations unpack bits, compute, and pack the result satisfy the laws of IEEE numbers, and so do the two
precisions.
-/

namespace BinaryQuadratic

open Float.Model (Format UnpackedFloat)
open Float.Model.UnpackedFloat

/-- Numbers kept as the bits of a format. -/
class Encoded (R : Type) [Scalar R] (spec : outParam Format) where
  bits : R → BitVec spec.numBits
  bits_injective {a b : R} : bits a = bits b → a = b
  valid_bits (a : R) : spec.Valid (bits a)
  /-- The format has exponents for numbers that are neither special nor next to zero. -/
  wide : 2 ≤ spec.exponentBits
  bits_add (a b : R) : bits (a + b) = pack spec (add spec (unpack spec (bits a)) (unpack spec (bits b)))
  bits_mul (a b : R) : bits (a * b) = pack spec (mul spec (unpack spec (bits a)) (unpack spec (bits b)))
  bits_neg (a : R) : bits (-a) = pack spec (neg (unpack spec (bits a)))
  below_eq (a b : R) : Scalar.below a b = (unpack spec (bits a)).lt (unpack spec (bits b))
  beq_eq (a b : R) : (a == b) = (unpack spec (bits a)).beq (unpack spec (bits b))
  bits_zero : bits 0 = packedZero spec .positive
  bits_one : bits 1 = pack spec (Unpacked.one spec)
  bits_infinity : bits Scalar.infinity = packedInfinity spec .positive

namespace Encoded

open Scalar Unpacked

variable {R : Type} [Scalar R] {spec : Format} [Encoded R spec]

/-- The number that the bits stand for. -/
def value (a : R) : UnpackedFloat := unpack spec (bits a)

theorem isCanonical_value (a : R) : IsCanonical spec (value a) := isCanonical_unpack _

theorem pack_value (a : R) : pack spec (value a) = bits a := pack_unpack_of_valid (valid_bits a) (wide R)

theorem value_injective {a b : R} (h : value a = value b) : a = b := by
  apply bits_injective
  rw [← pack_value a, ← pack_value b, h]

theorem bits_sum (a b : R) : bits (a + b) = pack spec (add spec (value a) (value b)) := bits_add a b

theorem bits_product (a b : R) : bits (a * b) = pack spec (mul spec (value a) (value b)) := bits_mul a b

theorem bits_opposite (a : R) : bits (-a) = pack spec (neg (value a)) := bits_neg a

theorem eq_of_bits_eq_pack {a : R} {u : UnpackedFloat} (h : bits a = pack spec u) (hu : unpack spec (pack spec u) = u) :
    value a = u := by
  rw [value, h, hu]

@[simp]
theorem value_zero : value (0 : R) = .zero .positive := by
  rw [value, bits_zero]
  exact unpack_packedZero

@[simp]
theorem value_one : value (1 : R) = one spec := by
  rw [value, bits_one]
  exact unpack_pack_one (wide R)

@[simp]
theorem value_infinity : value (infinity : R) = .infinity .positive := by
  rw [value, bits_infinity]
  exact unpack_packedInfinity _

@[simp]
theorem value_neg_zero : value (-0 : R) = .zero .negative := by
  refine eq_of_bits_eq_pack ((bits_opposite 0).trans ?_) unpack_packedZero
  rw [value_zero]
  rfl

/-! ## What the tests and the arithmetic say of values -/

theorem below_iff {a b : R} :
    below a b = true ↔ ∃ p q, place (value a) = some p ∧ place (value b) = some q ∧ Before p q := by
  rw [below_eq]
  exact lt_iff _ _

theorem beq_iff {a b : R} : (a == b) = true ↔ ∃ p, place (value a) = some p ∧ place (value b) = some p := by
  rw [beq_eq]
  exact Unpacked.beq_iff _ _

theorem isDefined_iff {a : R} : IsDefined a ↔ ∃ p, place (value a) = some p := by
  rw [IsDefined, beq_iff]
  simp

theorem isDefined_iff_ne {a : R} : IsDefined a ↔ value a ≠ .notANumber := by
  rw [isDefined_iff]
  cases value a <;> simp [place]

theorem isZero_iff {a : R} : IsZero a ↔ ∃ sign, value a = .zero sign := by
  rw [IsZero, beq_eq]
  show (value a).beq (value 0) = true ↔ _
  -- equal values are the same, or they are the two zeros
  rw [value_zero, beq_iff_ne_notANumber_and_eq]
  constructor
  · rintro ⟨-, -, same | ⟨-, other⟩ | ⟨negative, -⟩⟩
    · exact ⟨_, same⟩
    · cases other
    · exact ⟨_, negative⟩
  · rintro ⟨sign, h⟩
    rw [h]
    cases sign <;> simp

theorem isNegativeZero_iff {a : R} : IsNegativeZero a ↔ value a = .zero .negative := by
  constructor
  · intro h
    rw [show a = -0 from h, value_neg_zero]
  · intro h
    exact value_injective (h.trans value_neg_zero.symm)

/-! ## Laws -/

instance : Ordered R where
  below_irrefl a := by
    rw [Bool.eq_false_iff]
    intro low
    obtain ⟨p, q, hp, hq, before⟩ := below_iff.1 low
    obtain rfl := Option.some.inj (hp.symm.trans hq)
    exact before_irrefl before
  below_trans low lower := by
    obtain ⟨p, q, hp, hq, first⟩ := below_iff.1 low
    obtain ⟨q', r, hq', hr, second⟩ := below_iff.1 lower
    obtain rfl := Option.some.inj (hq.symm.trans hq')
    exact below_iff.2 ⟨p, r, hp, hr, before_trans first second⟩
  beq_symm same := by
    obtain ⟨p, ha, hb⟩ := beq_iff.1 same
    exact beq_iff.2 ⟨p, hb, ha⟩
  beq_trans first second := by
    obtain ⟨p, ha, hb⟩ := beq_iff.1 first
    obtain ⟨q, hb', hc⟩ := beq_iff.1 second
    obtain rfl := Option.some.inj (hb.symm.trans hb')
    exact beq_iff.2 ⟨p, ha, hc⟩
  below_of_below_of_beq low same := by
    obtain ⟨p, q, hp, hq, before⟩ := below_iff.1 low
    obtain ⟨q', hq', hr⟩ := beq_iff.1 same
    obtain rfl := Option.some.inj (hq.symm.trans hq')
    exact below_iff.2 ⟨p, q, hp, hr, before⟩
  below_of_beq_of_below same low := by
    obtain ⟨p, hp, hq⟩ := beq_iff.1 same
    obtain ⟨p', r, hp', hr, before⟩ := below_iff.1 low
    obtain rfl := Option.some.inj (hq.symm.trans hp')
    exact below_iff.2 ⟨p, r, hp, hr, before⟩
  isDefined_of_below low := by
    obtain ⟨p, q, hp, hq, -⟩ := below_iff.1 low
    exact ⟨isDefined_iff.2 ⟨p, hp⟩, isDefined_iff.2 ⟨q, hq⟩⟩
  below_total ha hb := by
    obtain ⟨p, hp⟩ := isDefined_iff.1 ha
    obtain ⟨q, hq⟩ := isDefined_iff.1 hb
    rcases before_total p q with low | same | high
    · exact Or.inl (below_iff.2 ⟨p, q, hp, hq, low⟩)
    · exact Or.inr (Or.inl (beq_iff.2 ⟨p, hp, same ▸ hq⟩))
    · exact Or.inr (Or.inr (below_iff.2 ⟨q, p, hq, hp, high⟩))
  isDefined_infinity := by
    rw [isDefined_iff_ne, value_infinity]
    exact UnpackedFloat.noConfusion
  infinity_not_below a := by
    rw [Bool.eq_false_iff]
    intro low
    obtain ⟨p, q, hp, hq, before⟩ := below_iff.1 low
    rw [value_infinity] at hp
    exact not_before_of_infinity hp hq before

theorem value_neg (a : R) : value (-a) = neg (value a) :=
  eq_of_bits_eq_pack (bits_opposite a) (unpack_pack_neg (bits a) (wide R))

instance : Signed R where
  neg_neg a := by
    apply value_injective
    rw [value_neg, value_neg]
    cases value a with
    | notANumber => rfl
    | infinity sign => cases sign <;> rfl
    | zero sign => cases sign <;> rfl
    | finite sign m e pos => cases sign <;> rfl
  neg_beq_neg a b := by
    rw [beq_eq, beq_eq]
    show (value (-a)).beq (value (-b)) = (value a).beq (value b)
    rw [value_neg, value_neg, beq_neg]

/-- An undefined number makes undefined sums. -/
theorem value_add_of_undefined {a b : R} (h : value a = .notANumber ∨ value b = .notANumber) :
    value (a + b) = .notANumber := by
  refine eq_of_bits_eq_pack ((bits_sum a b).trans ?_) unpack_packedNaN
  rcases h with first | second
  · rw [first, notANumber_add]
  · rw [second, add_notANumber]

/-- An undefined number makes undefined products. -/
theorem value_mul_of_undefined {a b : R} (h : value a = .notANumber ∨ value b = .notANumber) :
    value (a * b) = .notANumber := by
  refine eq_of_bits_eq_pack ((bits_product a b).trans ?_) unpack_packedNaN
  rcases h with first | second
  · rw [first, notANumber_mul]
  · rw [second, mul_notANumber]

instance : Ieee R where
  mul_one a := by
    refine bits_injective ((bits_product a 1).trans ?_)
    rw [value_one, Unpacked.mul_one (isCanonical_value a)]
    exact pack_value a
  one_mul a := by
    refine bits_injective ((bits_product 1 a).trans ?_)
    rw [value_one, Unpacked.one_mul (isCanonical_value a)]
    exact pack_value a
  zero_mul a := by
    refine bits_injective ?_
    rw [bits_product, bits_product, value_zero, Unpacked.zero_mul]
  mul_zero a := by
    have product := bits_product a 0
    rw [value_zero] at product
    rcases mul_zero_cases (value a) spec with ⟨sign, h⟩ | h
    · refine Or.inl (isZero_iff.2 ⟨sign, ?_⟩)
      exact eq_of_bits_eq_pack (product.trans (by rw [h])) unpack_packedZero
    · refine Or.inr fun defined => isDefined_iff_ne.1 defined ?_
      exact eq_of_bits_eq_pack (product.trans (by rw [h])) unpack_packedNaN
  add_zero {a z} hz ha := by
    obtain ⟨sign, h⟩ := isZero_iff.1 hz
    refine bits_injective ((bits_sum a z).trans ?_)
    rw [h, Unpacked.add_zero sign (fun negative => ha (isNegativeZero_iff.2 negative))]
    exact pack_value a
  isNegativeZero_of_add {a b} h := by
    refine isNegativeZero_iff.2 (eq_negative_of_pack_add (isCanonical_value a) (isCanonical_value b) ?_)
    rw [← bits_sum, ← pack_value, isNegativeZero_iff.1 h]
    rfl
  not_isNegativeZero_zero h := by
    have negative := isNegativeZero_iff.1 h
    rw [value_zero] at negative
    cases negative
  not_isNegativeZero_infinity h := by
    have negative := isNegativeZero_iff.1 h
    rw [value_infinity] at negative
    cases negative
  eq_of_beq same ha hb := by
    rw [beq_eq, beq_iff_ne_notANumber_and_eq] at same
    obtain ⟨-, -, equal | ⟨-, negative⟩ | ⟨negative, -⟩⟩ := same
    · exact value_injective equal
    · exact absurd (isNegativeZero_iff.2 negative) hb
    · exact absurd (isNegativeZero_iff.2 negative) ha
  isDefined_of_add defined := by
    rw [isDefined_iff_ne, isDefined_iff_ne]
    rw [isDefined_iff_ne] at defined
    exact ⟨fun h => defined (value_add_of_undefined (Or.inl h)), fun h => defined (value_add_of_undefined (Or.inr h))⟩
  isDefined_of_mul defined := by
    rw [isDefined_iff_ne, isDefined_iff_ne]
    rw [isDefined_iff_ne] at defined
    exact ⟨fun h => defined (value_mul_of_undefined (Or.inl h)), fun h => defined (value_mul_of_undefined (Or.inr h))⟩

end Encoded

end BinaryQuadratic
