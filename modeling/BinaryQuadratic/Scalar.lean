/-!
# Scalars

The numbers that weights and energies are made of. A search needs very little of them: zero and one, sum, product and
sign change, two tests, below and equal, and a value above all others to start a minimum from. The tests are those of
the number type itself; with IEEE numbers the undefined value is neither below, above nor equal to anything, itself
included, and the two zeros are equal.

Two types of numbers are provided: binary32, whose precision is called float, and binary64, called double.
-/

namespace BinaryQuadratic

/-- Numbers in which weights are given and energies are summed. -/
class Scalar (R : Type) extends Zero R, One R, Add R, Mul R, Neg R, BEq R where
  /-- Whether the first number is strictly below the second. -/
  below : R → R → Bool
  /-- Not below any number: the minimum of nothing. -/
  infinity : R
  /-- Name of the precision, as preferences show it. -/
  precision : String
  /-- Bytes that a number takes in memory. -/
  bytes : Nat

namespace Scalar

variable {R : Type} [Scalar R]

/-- The smaller of two numbers. Of two that are equal, or not ordered, it is the first. -/
def lesser (a b : R) : R := if below b a then b else a

/-- The least of a list of numbers, from left to right, starting from infinity. -/
def least (values : List R) : R := values.foldl lesser infinity

@[simp]
theorem least_nil : least ([] : List R) = infinity := rfl

/-- Sum of a list of numbers, from left to right, starting from zero. -/
def sum (values : List R) : R := values.foldl (· + ·) 0

@[simp]
theorem sum_nil : sum ([] : List R) = 0 := rfl

end Scalar

/-! ## The two precisions -/

/-- Double precision: IEEE binary64. -/
instance binary64 : Scalar Float where
  zero := 0
  one := 1
  below a b := decide (a < b)
  infinity := Float.ofBits 0x7FF0000000000000
  precision := "double"
  bytes := 8

/-- Single precision: IEEE binary32. -/
instance binary32 : Scalar Float32 where
  zero := 0
  one := 1
  below a b := decide (a < b)
  infinity := Float32.ofBits 0x7F800000
  precision := "float"
  bytes := 4

end BinaryQuadratic
