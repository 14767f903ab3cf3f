import BinaryQuadratic.Problem
import BinaryQuadratic.Proofs.Index
import BinaryQuadratic.Proofs.Matrix

/-!
# Energies of posed problems

Every index has an energy over the weights of a posed problem, and so has every row of zeros and ones.
-/

namespace BinaryQuadratic

variable {R : Type} [Scalar R]

/-- Zero or one. -/
def unit (R : Type) [Scalar R] (bit : Bool) : R := if bit then 1 else 0

theorem toScalars_decode (x : Index) (n : Nat) :
    (x.decode n).toScalars R = (List.range n).map fun position => unit R (x.bit position n) := by
  rw [Assignment.toScalars, Index.decode, List.map_map]
  apply List.map_congr_left
  intro position _
  show (if (if x.bit position n = true then (1 : UInt8) else 0) = 0 then (0 : R) else 1) = _
  cases x.bit position n <;> rfl

namespace Problem

variable (p : Problem R)

/-- The stored entry at this place. -/
def weight (row col : Nat) : R := p.weights.weight row col

/-- Sum of the stored entries of a row over the selected variables. -/
def field (x : Index) (row : Nat) : R := p.weights.field row (x.selected p.size)

omit [Scalar R] in
theorem selected_eq_filter (x : Index) :
    x.selected p.size = (List.range p.size).filter fun position => x.bit position p.size :=
  Index.selected_eq_filter x (Nat.le_of_lt p.size_lt)

omit [Scalar R] in
theorem selected_lt {x : Index} {i : Nat} (h : i ∈ x.selected p.size) : i < p.weights.rows ∧ i < p.weights.cols := by
  rw [p.selected_eq_filter, List.mem_filter, List.mem_range] at h
  exact ⟨h.1, p.square ▸ h.1⟩

theorem weights_energy?_eq (x : Index) :
    p.weights.energy? x = some (Scalar.sum ((x.selected p.size).map (p.field x))) :=
  Matrix.energyOver?_eq (fun _ h => (p.selected_lt h).1) (fun _ h => (p.selected_lt h).2)

theorem isSome_energy? (x : Index) : (p.weights.energy? x).isSome = true := by
  rw [p.weights_energy?_eq]
  rfl

/-- Energy of an index, from its selected variables. -/
def energy (x : Index) : R := (p.weights.energy? x).get (p.isSome_energy? x)

theorem energy?_eq (x : Index) : p.weights.energy? x = some (p.energy x) := (Option.some_get _).symm

theorem energy_eq (x : Index) : p.energy x = Scalar.sum ((x.selected p.size).map (p.field x)) := by
  have both := p.weights_energy?_eq x
  rw [p.energy?_eq] at both
  exact Option.some.inj both

/-! ## The quadratic form of an assignment -/

/-- Sum of the products of a row with the zeros and ones of an assignment. -/
def product (x : Index) (row : Nat) : R :=
  Scalar.sum ((List.range p.size).map fun col => p.weight row col * unit R (x.bit col p.size))

theorem weights_energyOfRow?_eq (x : Index) :
    p.weights.energyOfRow? ((x.decode p.size).toScalars R) =
      some (Scalar.sum ((List.range p.size).map fun row => unit R (x.bit row p.size) * p.product x row)) := by
  have all := p.weights.energyOfRow?_eq p.square fun position => unit R (x.bit position p.size)
  rw [toScalars_decode]
  rw [← p.square] at all
  exact all

theorem isSome_energyOfRow? (x : Index) : (p.weights.energyOfRow? ((x.decode p.size).toScalars R)).isSome = true := by
  rw [p.weights_energyOfRow?_eq]
  rfl

/-- Quadratic form of the assignment with this index. -/
def form (x : Index) : R := (p.weights.energyOfRow? ((x.decode p.size).toScalars R)).get (p.isSome_energyOfRow? x)

theorem energyOfRow?_eq (x : Index) : p.weights.energyOfRow? ((x.decode p.size).toScalars R) = some (p.form x) :=
  (Option.some_get _).symm

theorem form_eq (x : Index) :
    p.form x = Scalar.sum ((List.range p.size).map fun row => unit R (x.bit row p.size) * p.product x row) := by
  have both := p.weights_energyOfRow?_eq x
  rw [p.energyOfRow?_eq] at both
  exact Option.some.inj both

end Problem

end BinaryQuadratic
