import BinaryQuadratic.Proofs.Format.Precision
import BinaryQuadratic.Proofs.Observation

/-!
# Observations in batches

A batch of observations is taken in at once: its least energy is found first, and the indices at that energy are kept
if it reaches the incumbent. The least energy may be found in parallel. The energies are cut into parts, in order, each
part is reduced from infinity, and the results are joined two by two in whatever order they are ready (`Reduction`). No
result is undefined, and among defined numbers taking the smaller one is associative, so every way of cutting finds the
same number, the first of those that are least (`Reduction.least_eq`).

Batch by batch an incumbent comes to the same as one observation after the other
(`Incumbent.takeBatches_eq_observeAll`).
-/

namespace BinaryQuadratic

open Scalar

variable {R : Type} [Scalar R]

/-! ## Reducing in parallel -/

/-- A way of cutting a list of numbers into consecutive parts, and of joining what comes of them. -/
inductive Reduction (R : Type) where
  | part (values : List R)
  | join (first second : Reduction R)

namespace Reduction

/-- The numbers that are reduced, in order. -/
def values : Reduction R → List R
  | part values => values
  | join first second => first.values ++ second.values

/-- What comes of it: each part starts from infinity. -/
def least : Reduction R → R
  | part values => Scalar.least values
  | join first second => lesser first.least second.least

/-- It makes no difference how the numbers are cut. -/
theorem least_eq [Ordered R] (cut : Reduction R) : cut.least = Scalar.least cut.values := by
  induction cut with
  | part values => rfl
  | join first second ih ih' => rw [least, ih, ih', values, least_append]

end Reduction

/-! ## Batches -/

/-- Observations that are taken in at once, and how their energies are cut to find the least of them. -/
structure Batch (R : Type) where
  met : List (Index × R)
  cut : Reduction R
  covers : cut.values = met.map (·.2)

namespace Incumbent

/-- Takes in a batch. -/
def takeBatch (c : Incumbent R) (batch : Batch R) : Incumbent R :=
  c.take batch.cut.least (indicesAt batch.met batch.cut.least)

/-- Takes in several batches, in order. -/
def takeBatches (c : Incumbent R) (batches : List (Batch R)) : Incumbent R := batches.foldl takeBatch c

/-- What can become of an incumbent that starts from nothing. -/
inductive Reachable : Incumbent R → Prop
  | empty : Reachable empty
  | lower {c : Incumbent R} (energy : R) : Reachable c → Reachable (c.lower energy)
  | observe {c : Incumbent R} (x : Index) (energy : R) : Reachable c → Reachable (c.observe x energy)
  | extend {c : Incumbent R} (indices : List Index) : Reachable c → Reachable (c.extend indices)

section Laws

variable [Ordered R] {c : Incumbent R}

theorem Reachable.isDefined (h : c.Reachable) : IsDefined c.energy := by
  induction h with
  | empty => exact isDefined_infinity
  | lower energy _ ih =>
    rw [energy_lower]
    exact isDefined_lesser ih
  | observe x energy _ ih => exact isDefined_observe ih x energy
  | extend indices _ ih => exact ih

theorem takeBatch_eq_observeAll (defined : IsDefined c.energy) (batch : Batch R) :
    c.takeBatch batch = c.observeAll batch.met := by
  rw [takeBatch, batch.cut.least_eq, batch.covers]
  exact take_eq_observeAll defined batch.met

/-- **Batches make no difference.** Whatever became of an incumbent before, taking in observations batch by batch, each
cut in any way to find its least energy, leaves the same energy, to the last bit, and the same ties, in the same order,
as taking them in one after the other. This holds for any energies, undefined, infinite and zeros of either sign. -/
theorem takeBatches_eq_observeAll (reachable : c.Reachable) (batches : List (Batch R)) :
    c.takeBatches batches = c.observeAll (batches.flatMap Batch.met) := by
  have defined := reachable.isDefined
  clear reachable
  unfold takeBatches
  induction batches generalizing c with
  | nil => rfl
  | cons batch batches ih =>
    rw [List.foldl_cons, takeBatch_eq_observeAll defined, List.flatMap_cons, observeAll_append]
    apply ih
    rw [energy_observeAll]
    exact isDefined_foldl_lesser defined _

end Laws

/-- Index nine was met at zero. -/
def zeroMet : Incumbent Float := empty.observe 9 0

/-- A number that is undefined, a negative zero and infinity, in three parts, one of which is empty; then a zero. -/
def zerosAgain : List (Batch Float) :=
  [⟨[(1, Float.ofBits 0x7FF8000000000000), (2, -0), (3, Scalar.infinity)],
    .join (.part [Float.ofBits 0x7FF8000000000000]) (.join (.part []) (.part [-0, Scalar.infinity])), rfl⟩,
   ⟨[(4, 0)], .part [0], rfl⟩]

/-- The zero that was met first stays, and the others are ties. -/
theorem takeBatches_eq_observeAll_zerosAgain :
    zeroMet.Reachable ∧ (zeroMet.takeBatches zerosAgain).energy.toBits = 0 ∧
      (zeroMet.takeBatches zerosAgain).ties.toList = [9, 2, 4] := by
  have reachable : zeroMet.Reachable := .observe 9 0 .empty
  rw [takeBatches_eq_observeAll reachable zerosAgain]
  exact ⟨reachable, by decide +kernel, by decide +kernel⟩

end Incumbent

end BinaryQuadratic
