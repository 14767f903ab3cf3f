import BinaryQuadratic.Proofs.Format.Encoded

/-!
# The two precisions

Binary32 and binary64 are kept as the bits of their formats.
-/

namespace BinaryQuadratic

open Float.Model (Format)
open Float.Model.UnpackedFloat

instance : Encoded Float Format.binary64 where
  bits a := a.toModel.toBits.toBitVec
  bits_injective {a b} h := by
    obtain ⟨⟨⟨x⟩, hx⟩⟩ := a
    obtain ⟨⟨⟨y⟩, hy⟩⟩ := b
    obtain rfl : x = y := h
    rfl
  valid_bits a := a.toModel.valid
  wide := by decide
  bits_add a b := rfl
  bits_mul a b := rfl
  bits_neg a := rfl
  below_eq a b := Bool.eq_iff_iff.2 (decide_eq_true_iff.trans decide_eq_true_iff)
  beq_eq a b := rfl
  bits_zero := by decide +kernel
  bits_one := by decide +kernel
  bits_infinity := by decide +kernel

instance : Encoded Float32 Format.binary32 where
  bits a := a.toModel.toBits.toBitVec
  bits_injective {a b} h := by
    obtain ⟨⟨⟨x⟩, hx⟩⟩ := a
    obtain ⟨⟨⟨y⟩, hy⟩⟩ := b
    obtain rfl : x = y := h
    rfl
  valid_bits a := a.toModel.valid
  wide := by decide
  bits_add a b := rfl
  bits_mul a b := rfl
  bits_neg a := rfl
  below_eq a b := Bool.eq_iff_iff.2 (decide_eq_true_iff.trans decide_eq_true_iff)
  beq_eq a b := rfl
  bits_zero := by decide +kernel
  bits_one := by decide +kernel
  bits_infinity := by decide +kernel

end BinaryQuadratic
