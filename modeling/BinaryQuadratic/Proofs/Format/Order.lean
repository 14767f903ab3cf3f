import BinaryQuadratic.Proofs.Format.Packing

/-!
# Order of a format

Every number but the undefined one has a place among triples of integers in lexicographic order, and the tests compare
places (`lt_iff`, `beq_iff`). Only the two zeros share a place.
-/

namespace BinaryQuadratic.Unpacked

open Float.Model (UnpackedFloat)
open Float.Model.UnpackedFloat

/-- Place of a number in the order of all numbers, lexicographically: its class, from the negative infinity up, and for
finite numbers exponent and mantissa with the sign of the number. Undefined numbers have no place. -/
def place : UnpackedFloat → Option (Int × Int × Int)
  | .infinity sign => some (sign.apply 2, 0, 0)
  | .notANumber => none
  | .zero _ => some (0, 0, 0)
  | .finite sign m e _ => some (sign.apply 1, sign.apply e, sign.apply m)

/-- Lexicographic comparison of places. -/
def comparePlaces (a b : Int × Int × Int) : Ordering :=
  (compare a.1 b.1).then ((compare a.2.1 b.2.1).then (compare a.2.2 b.2.2))

theorem compare_neg (a b : Int) : compare (-a) (-b) = (compare a b).swap := by
  rcases Int.lt_trichotomy a b with h | h | h
  · rw [Int.compare_eq_lt.2 h, Int.compare_eq_gt.2 (by omega)]
    rfl
  · subst h
    simp
  · rw [Int.compare_eq_gt.2 h, Int.compare_eq_lt.2 (by omega)]
    rfl

theorem compare_natCast (a b : Nat) : compare (a : Int) (b : Int) = compare a b := by
  rcases Nat.lt_trichotomy a b with h | h | h
  · rw [Nat.compare_eq_lt.2 h, Int.compare_eq_lt.2 (by omega)]
  · subst h
    simp
  · rw [Nat.compare_eq_gt.2 h, Int.compare_eq_gt.2 (by omega)]

/-- Numbers compare as their places do, and an undefined number does not compare with any. -/
theorem compare_eq (u v : UnpackedFloat) :
    u.compare v = (place u).bind fun a => (place v).map fun b => comparePlaces a b := by
  cases u with
  | notANumber => rfl
  | infinity s =>
    cases v with
    | notANumber => rfl
    | infinity s' => cases s <;> cases s' <;> rfl
    | zero => cases s <;> rfl
    | finite s' => cases s <;> cases s' <;> rfl
  | zero =>
    cases v with
    | notANumber => rfl
    | infinity s' => cases s' <;> rfl
    | zero => rfl
    | finite s' => cases s' <;> rfl
  | finite s m e pos =>
    cases v with
    | notANumber => cases s <;> rfl
    | infinity s' => cases s <;> cases s' <;> rfl
    | zero => cases s <;> rfl
    | finite s' m' e' pos' =>
      cases s <;> cases s'
      · -- among negative numbers both comparisons are the other way round
        simp [UnpackedFloat.compare, place, comparePlaces, Sign.apply, compare_neg, compare_natCast,
          Ordering.swap_then]
      · rfl
      · rfl
      · simp [UnpackedFloat.compare, place, comparePlaces, Sign.apply, compare_natCast]

/-- The place `a` comes before the place `b`. -/
def Before (a b : Int × Int × Int) : Prop :=
  a.1 < b.1 ∨ a.1 = b.1 ∧ (a.2.1 < b.2.1 ∨ a.2.1 = b.2.1 ∧ a.2.2 < b.2.2)

theorem lt_iff (u v : UnpackedFloat) : u.lt v = true ↔ ∃ a b, place u = some a ∧ place v = some b ∧ Before a b := by
  rw [UnpackedFloat.lt, compare_eq]
  cases place u with
  | none => simp
  | some a =>
    cases place v with
    | none => simp
    | some b => simp [comparePlaces, Before, Ordering.then_eq_lt, Int.compare_eq_lt]

theorem beq_iff (u v : UnpackedFloat) : u.beq v = true ↔ ∃ a, place u = some a ∧ place v = some a := by
  rw [UnpackedFloat.beq, compare_eq]
  cases place u with
  | none => simp
  | some a =>
    cases place v with
    | none => simp
    | some b =>
      have same : comparePlaces a b = .eq ↔ a = b := by
        simp [comparePlaces, Ordering.then_eq_eq, Prod.ext_iff]
      simp [same]
      exact eq_comm

/-- The opposite number stands at the opposite place. -/
theorem place_neg (u : UnpackedFloat) : place (neg u) = (place u).map fun p => (-p.1, -p.2.1, -p.2.2) := by
  cases u with
  | notANumber => rfl
  | infinity sign => cases sign <;> rfl
  | zero sign => cases sign <;> rfl
  | finite sign m e pos =>
    cases sign with
    | positive => rfl
    | negative =>
      show some ((1 : Int), e, (m : Int)) = some (- -(1 : Int), - -e, - -(m : Int))
      simp only [Int.neg_neg]

theorem beq_neg (u v : UnpackedFloat) : (neg u).beq (neg v) = u.beq v := by
  rw [Bool.eq_iff_iff, beq_iff, beq_iff, place_neg, place_neg]
  cases place u with
  | none => simp
  | some a =>
    cases place v with
    | none => simp
    | some b => simp [Prod.ext_iff]

/-! ## Laws of places -/

theorem before_irrefl {a : Int × Int × Int} : ¬ Before a a := by
  unfold Before
  omega

theorem before_trans {a b c : Int × Int × Int} (h : Before a b) (h' : Before b c) : Before a c := by
  unfold Before at *
  omega

theorem before_total (a b : Int × Int × Int) : Before a b ∨ a = b ∨ Before b a := by
  obtain ⟨a₁, a₂, a₃⟩ := a
  obtain ⟨b₁, b₂, b₃⟩ := b
  simp only [Before, Prod.mk.injEq]
  omega

/-- Nothing comes after the positive infinity. -/
theorem not_before_of_infinity {u : UnpackedFloat} {a b : Int × Int × Int}
    (ha : place (.infinity .positive) = some a) (hb : place u = some b) : ¬ Before a b := by
  obtain rfl := Option.some.inj ha
  cases u with
  | notANumber => cases hb
  | infinity sign =>
    obtain rfl := Option.some.inj hb
    cases sign <;> simp [Before, Sign.apply]
  | zero sign =>
    obtain rfl := Option.some.inj hb
    simp [Before, Sign.apply]
  | finite sign m e pos =>
    obtain rfl := Option.some.inj hb
    cases sign <;> simp [Before, Sign.apply]

end BinaryQuadratic.Unpacked
