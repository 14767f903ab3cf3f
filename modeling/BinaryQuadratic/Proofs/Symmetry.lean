import BinaryQuadratic.Problem
import BinaryQuadratic.Proofs.Scalar.Order

/-!
# Symmetries of problems

A change of weights and directions is a symmetry if every problem that is posed after it stores the weights that it
stored before. Then it is refused with the same error if it is refused, and only shows its energies in another way.
Changing every sign and the direction is a symmetry (`Symmetry.opposite`): the signs are changed back when the problem
is posed, or were not changed there and now are. All it takes is that changing a sign twice changes nothing, and that
numbers are equal exactly if their opposites are.
-/

namespace BinaryQuadratic

/-- The other direction. -/
def Direction.opposite : Direction → Direction
  | .minimize => .maximize
  | .maximize => .minimize

variable {R : Type} [Scalar R]

/-! ## Opposite weights -/

namespace Matrix

variable (m : Matrix R)

variable [Scalar.Signed R]

theorem negated_negated : m.negated.negated = m := by
  simp only [negated, Array.map_map]
  congr 1
  rw [show ((- ·) ∘ (- ·) : R → R) = id from funext Scalar.Signed.neg_neg, Array.map_id]

theorem agreesAt_negated (place : Nat × Nat) : m.negated.agreesAt place = m.agreesAt place := by
  rw [agreesAt, agreesAt, get?_negated, get?_negated]
  cases m.get? place.1 place.2 with
  | none => cases m.get? place.2 place.1 <;> rfl
  | some a =>
    cases m.get? place.2 place.1 with
    | none => rfl
    | some b => exact Scalar.Signed.neg_beq_neg a b

/-- Opposite weights differ from their transposes at the same places. -/
theorem asymmetry_negated : m.negated.asymmetry = m.asymmetry := by
  have same : (fun place => !m.negated.agreesAt place) = fun place => !m.agreesAt place :=
    funext fun place => congrArg Bool.not (m.agreesAt_negated place)
  rw [asymmetry, asymmetry, same]
  rfl

end Matrix

/-! ## Symmetries -/

namespace Problem

/-- The problem with its direction changed, and its stored weights as they are. -/
def redirected (change : Direction → Direction) (p : Problem R) : Problem R :=
  { p with direction := change p.direction }

omit [Scalar R] in
@[simp]
theorem redirected_id (p : Problem R) : p.redirected id = p := rfl

omit [Scalar R] in
@[simp]
theorem weights_redirected (change : Direction → Direction) (p : Problem R) :
    (p.redirected change).weights = p.weights := rfl

omit [Scalar R] in
@[simp]
theorem size_redirected (change : Direction → Direction) (p : Problem R) : (p.redirected change).size = p.size := rfl

/-- Changes of weights, directions and energies that belong together. -/
structure Symmetry (R : Type) [Scalar R] where
  weights : Matrix R → Matrix R
  direction : Direction → Direction
  energy : R → R
  /-- What is posed after the change stores the same weights, or is refused for the same reason. -/
  pose_eq (m : Matrix R) (d : Direction) : pose (weights m) (direction d) = (pose m d).map (redirected direction)
  /-- An energy is shown changed. -/
  external_eq (p : Problem R) (a : R) : (p.redirected direction).external a = energy (p.external a)

namespace Symmetry

/-- Nothing is changed. -/
def same : Symmetry R where
  weights := id
  direction := id
  energy := id
  pose_eq m d := by
    show pose m d = (pose m d).map id
    rw [Except.map_id, id]
  external_eq _ _ := rfl

/-- A problem posed with opposite weights in the opposite direction stores the same weights. -/
theorem pose_opposite [Scalar.Signed R] (m : Matrix R) (d : Direction) :
    pose m.negated d.opposite = (pose m d).map (redirected Direction.opposite) := by
  unfold pose
  rw [Matrix.asymmetry_negated]
  by_cases square : m.rows = m.cols
  · rw [dif_pos square, dif_pos (show m.negated.rows = m.negated.cols from square)]
    cases m.asymmetry with
    | some place => rfl
    | none =>
      dsimp only
      by_cases small : m.rows < 64
      · rw [dif_pos small, dif_pos (show m.negated.rows < 64 from small)]
        -- of the two problems, the one that is maximised changes its signs back
        cases d with
        | minimize => simp only [Direction.opposite, Matrix.negated_negated]; rfl
        | maximize => rfl
      · rw [dif_neg small, dif_neg (show ¬ m.negated.rows < 64 from small)]
        rfl
  · rw [dif_neg square, dif_neg (show ¬ m.negated.rows = m.negated.cols from square)]
    rfl

/-- Every sign is changed, and the direction with them. -/
def opposite [Scalar.Signed R] : Symmetry R where
  weights := Matrix.negated
  direction := Direction.opposite
  energy := (- ·)
  pose_eq := pose_opposite
  external_eq p a := by
    unfold external redirected
    cases p.direction with
    | minimize => rfl
    | maximize => exact (Scalar.Signed.neg_neg a).symm

end Symmetry

end Problem

end BinaryQuadratic
