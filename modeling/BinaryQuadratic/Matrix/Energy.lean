import BinaryQuadratic.Assignment
import BinaryQuadratic.Matrix.Basic

/-!
# Energies

The energy of an assignment `x` over a matrix `W` is the quadratic form `xᵀ W x`. It is summed in one fixed order, row
by row and within a row from left to right, so that equal assignments have equal energies to the last bit. There are
two ways to get it. From an index, the rows and columns of unselected variables are skipped. From a row of zeros and
ones, every weight is multiplied by the value of its column and every row sum by the value of its row.

Both read the weights through checked access, and have no result if they would read past them.
-/

namespace BinaryQuadratic

variable {R : Type} [Scalar R]

namespace Matrix

/-- Sum of the entries of a row over the given columns. -/
def field? (w : Matrix R) (row : Nat) (cols : List Nat) : Option R :=
  cols.foldlM (fun sum col => (w.entry? row col).map (sum + ·)) 0

/-- Sum over the selected rows of their entries in the selected columns. -/
def energyOver? (w : Matrix R) (selected : List Nat) : Option R :=
  selected.foldlM (fun sum row => (w.field? row selected).map (sum + ·)) 0

/-- Energy of the assignment with this index, of as many variables as the matrix has rows. -/
def energy? (w : Matrix R) (x : Index) : Option R := w.energyOver? (x.selected w.rows)

end Matrix

/-! ## The quadratic form of a row of numbers -/

/-- Sum of the products of two lists, as far as both go. -/
def dot (weights bits : List R) : R := Scalar.sum (List.zipWith (· * ·) weights bits)

/-- Adds to `energy`, for each of the given values, its product with the sum of the next `n` weights over `bits`. -/
def addRows? (n : Nat) (bits : List R) : List R → List R → R → Option R
  | [], _, energy => some energy
  | value :: values, weights, energy =>
    if weights.length < n then none
    else addRows? n bits values (weights.drop n) (energy + value * dot (weights.take n) bits)

/-- The quadratic form of `bits` over the `n` by `n` weights stored row by row. -/
def quadraticForm? (weights : List R) (n : Nat) (bits : List R) : Option R :=
  addRows? n bits (bits.take n) weights 0

/-- Energy of an assignment that is given as a row of zeros and ones. -/
def Matrix.energyOfRow? (w : Matrix R) (bits : List R) : Option R :=
  quadraticForm? w.data.toList w.cols bits

end BinaryQuadratic
