import BinaryQuadratic.Proofs.Scalar.Order

/-!
# Arithmetic of IEEE numbers

The facts about sums and products that make two ways of computing an energy agree to the last bit. A number is finite
when its product with zero is a zero; the product of any other number with zero is undefined. A negative zero is the
one number to which a positive zero cannot be added without changing it, and no sum is a negative zero unless its first
term is, so a sum that starts from zero can take in zeros of either sign and stays what it is (`sum_map_filter`).
-/

namespace BinaryQuadratic.Scalar

variable {R : Type} [Scalar R]

/-- The number is a zero, of either sign. -/
def IsZero (a : R) : Prop := (a == 0) = true

/-- The product of the number with zero is a zero. -/
def IsFinite (a : R) : Prop := IsZero (a * 0)

/-- The number is the zero with the negative sign. -/
def IsNegativeZero (a : R) : Prop := a = -0

/-- The laws of IEEE sums and products, rounded to nearest, that energies rest on. -/
class Ieee (R : Type) [Scalar R] : Prop extends Ordered R where
  mul_one (a : R) : a * 1 = a
  one_mul (a : R) : 1 * a = a
  zero_mul (a : R) : 0 * a = a * 0
  /-- The product of a number with zero is a zero or undefined. -/
  mul_zero (a : R) : IsFinite a ∨ ¬ IsDefined (a * 0)
  add_zero {a z : R} : IsZero z → ¬ IsNegativeZero a → a + z = a
  isNegativeZero_of_add {a b : R} : IsNegativeZero (a + b) → IsNegativeZero a
  not_isNegativeZero_zero : ¬ IsNegativeZero (0 : R)
  not_isNegativeZero_infinity : ¬ IsNegativeZero (infinity : R)
  /-- Equal numbers are the same, but for the two zeros. -/
  eq_of_beq {a b : R} : (a == b) = true → ¬ IsNegativeZero a → ¬ IsNegativeZero b → a = b
  isDefined_of_add {a b : R} : IsDefined (a + b) → IsDefined a ∧ IsDefined b
  isDefined_of_mul {a b : R} : IsDefined (a * b) → IsDefined a ∧ IsDefined b

/-! ## Sums -/

section Sums

variable [Ieee R]

export Ieee (mul_one one_mul zero_mul mul_zero add_zero isNegativeZero_of_add not_isNegativeZero_zero
  not_isNegativeZero_infinity eq_of_beq isDefined_of_add isDefined_of_mul)

theorem not_isNegativeZero_foldl {a : R} (h : ¬ IsNegativeZero a) (values : List R) :
    ¬ IsNegativeZero (values.foldl (· + ·) a) := by
  induction values generalizing a with
  | nil => exact h
  | cons value values ih =>
    apply ih
    intro negative
    exact h (isNegativeZero_of_add negative)

/-- No sum that starts from zero is a negative zero. -/
theorem not_isNegativeZero_sum (values : List R) : ¬ IsNegativeZero (sum values) :=
  not_isNegativeZero_foldl not_isNegativeZero_zero values

/-- Zeros can be left out of a sum. -/
theorem sum_map_filter {α : Type} (keep : α → Bool) (f : α → R) (xs : List α)
    (zeros : ∀ x ∈ xs, keep x = false → IsZero (f x)) : sum (xs.map f) = sum ((xs.filter keep).map f) := by
  -- the induction is on sums from any start that is not a negative zero
  have start := not_isNegativeZero_zero (R := R)
  unfold sum
  generalize (0 : R) = a at start ⊢
  induction xs generalizing a with
  | nil => rfl
  | cons x xs ih =>
    have rest := fun y hy => zeros y (List.mem_cons_of_mem x hy)
    cases kept : keep x with
    | true =>
      rw [List.filter_cons_of_pos kept, List.map_cons, List.map_cons, List.foldl_cons, List.foldl_cons]
      exact ih rest _ (fun negative => start (isNegativeZero_of_add negative))
    | false =>
      rw [List.filter_cons_of_neg (by simp [kept]), List.map_cons, List.foldl_cons,
        add_zero (zeros x List.mem_cons_self kept) start]
      exact ih rest _ start

/-- What a sum is made of is defined if the sum is. -/
theorem isDefined_of_mem_foldl {a : R} {values : List R} (h : IsDefined (values.foldl (· + ·) a)) :
    IsDefined a ∧ ∀ value ∈ values, IsDefined value := by
  induction values generalizing a with
  | nil => exact ⟨h, fun _ hvalue => absurd hvalue List.not_mem_nil⟩
  | cons value values ih =>
    obtain ⟨first, rest⟩ := ih h
    obtain ⟨start, own⟩ := isDefined_of_add first
    refine ⟨start, ?_⟩
    intro v hv
    rcases List.mem_cons.1 hv with rfl | later
    · exact own
    · exact rest v later

theorem isDefined_of_mem_sum {values : List R} (h : IsDefined (sum values)) {value : R} (hvalue : value ∈ values) :
    IsDefined value := (isDefined_of_mem_foldl h).2 value hvalue

end Sums

end BinaryQuadratic.Scalar
