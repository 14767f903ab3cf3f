import BinaryQuadratic.Index
import BinaryQuadratic.Scalar

/-!
# Incumbents

The incumbent of a scan is the least energy met so far together with every index that reached it, in the order they
were met. An energy that is not a number is neither below nor equal to any other, so its index is never kept. Workers
scan apart from each other; merging their incumbents takes the least of their energies and the indices of all workers
that reached it, in ascending order, up to a given number.
-/

namespace BinaryQuadratic

/-- The least energy so far and the indices that reached it. -/
structure Incumbent (R : Type) where
  energy : R
  ties : Array Index

namespace Incumbent

/-- Words of host memory that an incumbent takes: its energy, and address, length and room of its indices. -/
def words : Nat := 4

variable {R : Type} [Scalar R]

/-- Nothing was met. -/
def empty : Incumbent R := ⟨Scalar.infinity, #[]⟩

/-- Moves down to an energy that is below the incumbent's, and forgets the indices then. -/
def lower (c : Incumbent R) (energy : R) : Incumbent R :=
  if Scalar.below energy c.energy then ⟨energy, #[]⟩ else c

/-- Whether indices of this energy belong to the incumbent. -/
def reaches (c : Incumbent R) (energy : R) : Bool := energy == c.energy

/-- Keeps further indices, which are known to reach the incumbent's energy. -/
def extend (c : Incumbent R) (indices : List Index) : Incumbent R :=
  { c with ties := c.ties.appendList indices }

/-- Takes in one index and its energy. -/
def observe (c : Incumbent R) (x : Index) (energy : R) : Incumbent R :=
  let lowered := c.lower energy
  if lowered.reaches energy then { lowered with ties := lowered.ties.push x } else lowered

/-- Takes in several indices with their energies, in order. -/
def observeAll (c : Incumbent R) (met : List (Index × R)) : Incumbent R :=
  met.foldl (fun c met => c.observe met.1 met.2) c

@[simp]
theorem observeAll_nil (c : Incumbent R) : c.observeAll [] = c := rfl

@[simp]
theorem observeAll_append (c : Incumbent R) (before after : List (Index × R)) :
    c.observeAll (before ++ after) = (c.observeAll before).observeAll after := by
  simp [observeAll]

end Incumbent

/-! ## Merging -/

/-- The least energy of several scans, and the first indices that reached it. -/
structure Merged (R : Type) where
  energy : R
  indices : List Index

/-- Merges incumbents, keeping at most `cap` indices. -/
def Incumbent.merge {R : Type} [Scalar R] (incumbents : List (Incumbent R)) (cap : Nat) : Merged R :=
  let energy := Scalar.least (incumbents.map (·.energy))
  let best := incumbents.filter (·.energy == energy)
  let ties := best.flatMap (·.ties.toList)
  ⟨energy, (ties.mergeSort (fun x y => decide (x ≤ y))).take cap⟩

end BinaryQuadratic
