import BinaryQuadratic.HostMemory
import BinaryQuadratic.Scalar

/-!
# Dense matrices

A matrix keeps its entries row by row in one array, whose size is always the product of its dimensions. Symmetry is
exact: entries at transposed places must be equal as numbers, so an undefined entry off the diagonal makes a matrix
asymmetric.
-/

namespace BinaryQuadratic

/-- Why a matrix is refused. -/
inductive MatrixError where
  /-- The data do not fill the dimensions, the rows differ in length, or the matrix is not square. -/
  | shape (rows cols : Nat)
  /-- The entry at this row and column differs from the one at the transposed place. -/
  | notSymmetric (row col : Nat)
  /-- Too many variables for an index to number their assignments. -/
  | sizeLimit (n : Nat)
  deriving DecidableEq

/-- Wording of a refusal. -/
def MatrixError.message : MatrixError → String
  | .shape rows cols => s!"invalid matrix shape {rows}x{cols}"
  | .notSymmetric row col => s!"matrix is not symmetric at ({row}, {col})"
  | .sizeLimit n => s!"N must be smaller than 64, N={n}"

/-- A matrix of numbers, stored row by row. -/
structure Matrix (R : Type) where
  rows : Nat
  cols : Nat
  data : Array R
  size_data : data.size = rows * cols

namespace Matrix

variable {R : Type}

/-! ## Construction -/

/-- The matrix with these dimensions and data, if the data fill it. -/
def ofData (rows cols : Nat) (data : Array R) : Except MatrixError (Matrix R) :=
  if h : data.size = rows * cols then .ok ⟨rows, cols, data, h⟩ else .error (.shape rows cols)

/-- The matrix with these rows, if they have one length. -/
def ofRows (rows : List (List R)) : Except MatrixError (Matrix R) :=
  let cols := (rows.head?.map List.length).getD 0
  if rows.all fun row => row.length == cols then ofData rows.length cols rows.flatten.toArray
  else .error (.shape rows.length cols)

variable [Scalar R]

/-- All entries zero. -/
def zeros (R : Type) [Scalar R] (rows cols : Nat) : Matrix R where
  rows := rows
  cols := cols
  data := Array.replicate (rows * cols) 0
  size_data := Array.size_replicate

/-- Ones on the diagonal and zeros elsewhere. -/
def identity (R : Type) [Scalar R] (n : Nat) : Matrix R where
  rows := n
  cols := n
  data := ((List.range (n * n)).map fun k => if k / n = k % n then 1 else 0).toArray
  size_data := by simp

/-- All entries zero, if host memory can hold as many. -/
def zeros? (R : Type) [Scalar R] (rows cols : Nat) : Option (Matrix R) :=
  if HostMemory.Fits (rows * cols) (Scalar.bytes R) then some (zeros R rows cols) else none

/-- Ones on the diagonal and zeros elsewhere, if host memory can hold as many entries. -/
def identity? (R : Type) [Scalar R] (n : Nat) : Option (Matrix R) :=
  if HostMemory.Fits (n * n) (Scalar.bytes R) then some (identity R n) else none

/-- Every entry with its sign changed. -/
def negated (m : Matrix R) : Matrix R where
  rows := m.rows
  cols := m.cols
  data := m.data.map (- ·)
  size_data := by simp [m.size_data]

/-! ## Entries -/

/-- Same dimensions and equal entries. -/
instance : BEq (Matrix R) :=
  ⟨fun a b => a.rows == b.rows && a.cols == b.cols && a.data == b.data⟩

/-- The number at this place of the stored data, counted from the start of the row. A column past the last one reads
on into the rows below. -/
def get? (m : Matrix R) (row col : Nat) : Option R := m.data[row * m.cols + col]?

/-- The entry of a row at a column that the row has. -/
def entry? (m : Matrix R) (row col : Nat) : Option R :=
  if col < m.cols then m.get? row col else none

/-- The entries of a row. -/
def row? (m : Matrix R) (row : Nat) : Option (List R) :=
  if (row + 1) * m.cols ≤ m.data.size then
    some (m.data.extract (row * m.cols) ((row + 1) * m.cols)).toList
  else none

/-! ## Symmetry -/

/-- Whether there are as many rows as columns. -/
def isSquare (m : Matrix R) : Bool := m.rows == m.cols

/-- The places above the diagonal of `n` rows, row by row. -/
def upperPlaces (n : Nat) : List (Nat × Nat) :=
  (List.range n).flatMap fun row => (List.range' (row + 1) (n - (row + 1))).map fun col => (row, col)

/-- Whether the numbers at a place and at the transposed place are equal. -/
def agreesAt (m : Matrix R) (place : Nat × Nat) : Bool :=
  m.get? place.1 place.2 == m.get? place.2 place.1

/-- The first place, row by row above the diagonal, whose entry differs from the transposed one; for a matrix that is
not square, the origin. -/
def asymmetry (m : Matrix R) : Option (Nat × Nat) :=
  if m.isSquare then (upperPlaces m.rows).find? fun place => !m.agreesAt place else some (0, 0)

/-- Whether the matrix is square and equal to its transpose. -/
def isSymmetric (m : Matrix R) : Bool := m.asymmetry.isNone

@[simp]
theorem rows_negated (m : Matrix R) : m.negated.rows = m.rows := rfl

@[simp]
theorem cols_negated (m : Matrix R) : m.negated.cols = m.cols := rfl

theorem get?_negated (m : Matrix R) (row col : Nat) : m.negated.get? row col = (m.get? row col).map (- ·) := by
  simp only [get?, negated, Array.getElem?_map]

end Matrix

end BinaryQuadratic
