import BinaryQuadratic.Matrix.Energy

/-!
# Problems

A problem is a symmetric matrix of weights for fewer than 64 variables, and a direction. The search only ever looks for
least energies: weights to be maximised are stored with their signs changed, once, when the problem is posed, and
energies change their sign back when they are shown.
-/

namespace BinaryQuadratic

/-- Whether the least or the greatest energy is wanted. -/
inductive Direction where
  | minimize
  | maximize
  deriving DecidableEq, Inhabited

namespace Direction

/-- Every direction. -/
def all : List Direction := [.minimize, .maximize]

/-- Name of the direction. -/
def name : Direction → String
  | .minimize => "minimize"
  | .maximize => "maximize"

/-- The direction with this name. -/
def ofName? (text : String) : Option Direction := all.find? (·.name == text)

end Direction

/-- Weights to be minimised, and the direction in which they were given. -/
structure Problem (R : Type) where
  weights : Matrix R
  direction : Direction
  square : weights.rows = weights.cols
  size_lt : weights.rows < 64

namespace Problem

variable {R : Type} [Scalar R]

/-- Poses a problem. The matrix must be square, symmetric and small enough, and is refused for the first of these that
it is not. What is posed is the one problem that represents the matrix in its direction (`pose_eq_ok_iff`). -/
def pose (weights : Matrix R) (direction : Direction) : Except MatrixError (Problem R) :=
  if square : weights.rows = weights.cols then
    match weights.asymmetry with
    | some (row, col) => .error (.notSymmetric row col)
    | none =>
      if small : weights.rows < 64 then
        match direction with
        | .minimize => .ok ⟨weights, .minimize, square, small⟩
        | .maximize => .ok ⟨weights.negated, .maximize, square, small⟩
      else .error (.sizeLimit weights.rows)
  else .error (.shape weights.rows weights.cols)

/-- Number of variables. -/
def size (p : Problem R) : Nat := p.weights.rows

/-- A stored energy in the direction in which the problem was given. -/
def external (p : Problem R) (energy : R) : R :=
  match p.direction with
  | .minimize => energy
  | .maximize => -energy

end Problem

end BinaryQuadratic
