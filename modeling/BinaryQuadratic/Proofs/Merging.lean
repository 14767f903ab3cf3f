import BinaryQuadratic.Proofs.Format.Precision
import BinaryQuadratic.Proofs.Optimum

/-!
# Merging what was observed apart

Observations are dealt out to any number of incumbents, each of which takes in its own in any order, starting from
nothing. Merging them does not tell how the observations were dealt out: the energy is the least that was observed, and
the indices are the first ones of all that were observed at it, each as often as it was (`Incumbent.merge_observed`).
-/

namespace BinaryQuadratic.Incumbent

open Scalar

variable {R : Type} [Scalar R]

/-- What merging reports of observations that were dealt out in these parts. -/
def mergeObserved (parts : List (List (Index × R))) (cap : Nat) : Merged R :=
  merge (parts.map (empty : Incumbent R).observeAll) cap

theorem indicesAt_flatten (parts : List (List (Index × R))) (energy : R) :
    indicesAt parts.flatten energy = parts.flatMap fun met => indicesAt met energy := by
  induction parts with
  | nil => rfl
  | cons met parts ih => rw [List.flatten_cons, indicesAt_append, ih, List.flatMap_cons]

theorem indicesAt_perm {met met' : List (Index × R)} (same : met.Perm met') (energy : R) :
    (indicesAt met energy).Perm (indicesAt met' energy) :=
  (same.filter _).map _

variable [Ordered R]

/-- The parts may as well have been taken in one after the other. -/
theorem energy_mergeObserved (parts : List (List (Index × R))) (cap : Nat) :
    (mergeObserved parts cap).energy = least (parts.flatten.map (·.2)) := by
  rw [mergeObserved, energy_merge, List.map_map, List.map_flatten, ← least_map_least, List.map_map]
  congr 1
  apply List.map_congr_left
  intro met _
  exact energy_observeAll_empty met

/-- The ties of the incumbents at the least energy are all indices that were observed at it. -/
theorem flatMap_ties_observed (parts : List (List (Index × R))) :
    ((parts.map (empty : Incumbent R).observeAll).filter
        (·.energy == least (parts.flatten.map (·.2)))).flatMap (·.ties.toList) =
      indicesAt parts.flatten (least (parts.flatten.map (·.2))) := by
  generalize lowest : least (parts.flatten.map (·.2)) = energy
  have defined : IsDefined energy := lowest ▸ isDefined_least _
  rw [indicesAt_flatten]
  apply flatMap_ties_of
  intro met among
  rw [energy_observeAll_empty, ties_observeAll_empty]
  split
  · next same => simp only [indicesAt, beq_congr_right same]
  · next other =>
    -- what this incumbent took in is higher
    apply indicesAt_eq_nil
    have high : below (least (met.map (·.2))) energy = false := by
      rw [← lowest, List.map_flatten, ← least_map_least]
      apply not_below_least
      exact List.mem_map_of_mem (List.mem_map_of_mem among)
    exact below_of_not_below (isDefined_least _) defined high other

/-- Any ascending list of what was observed at the least energy has the indices that are reported at its front. -/
theorem indices_mergeObserved (parts : List (List (Index × R))) (cap : Nat) {ascending : List Index}
    (sorted : ascending.Pairwise (· ≤ ·))
    (perm : (indicesAt parts.flatten (mergeObserved parts cap).energy).Perm ascending) :
    (mergeObserved parts cap).indices = ascending.take cap := by
  have energy := energy_mergeObserved parts cap
  rw [energy] at perm
  apply indices_merge_of_perm sorted
  unfold mergeObserved at energy
  rwa [energy, flatMap_ties_observed]

/-- **Only what was observed counts.** Observations, some of them perhaps undefined, infinite or zeros of either sign,
and indices perhaps repeated, are dealt out to fresh incumbents and merged. Then the energy is the least of the defined
energies, or infinity if there is none, and the indices are the front, as long as the cap, of the ascending list of all
indices at that energy, with repetitions. So dealing out the same observations in another way, or in another order,
gives the same indices, and the same energy but for the sign of a zero. -/
theorem merge_observed (parts : List (List (Index × R))) (cap : Nat) :
    LeastOf (parts.flatten.map (·.2)) (mergeObserved parts cap).energy ∧
    (∃ ascending : List Index, ascending.Pairwise (· ≤ ·) ∧
      ascending.Perm (indicesAt parts.flatten (mergeObserved parts cap).energy) ∧
      (mergeObserved parts cap).indices = ascending.take cap) ∧
    ∀ parts' : List (List (Index × R)), parts'.flatten.Perm parts.flatten →
      (mergeObserved parts' cap).indices = (mergeObserved parts cap).indices ∧
      ((mergeObserved parts' cap).energy == (mergeObserved parts cap).energy) = true := by
  have least_of (parts : List (List (Index × R))) :
      LeastOf (parts.flatten.map (·.2)) (mergeObserved parts cap).energy := by
    rw [energy_mergeObserved]
    exact leastOf_least _
  let met := indicesAt parts.flatten (mergeObserved parts cap).energy
  have sorted := pairwise_mergeSort met
  have perm : (met.mergeSort fun x y => decide (x ≤ y)).Perm met := List.mergeSort_perm _ _
  have front := indices_mergeObserved parts cap sorted perm.symm
  refine ⟨least_of parts, ⟨_, sorted, perm, front⟩, fun parts' same => ?_⟩
  have energy : ((mergeObserved parts' cap).energy == (mergeObserved parts cap).energy) = true :=
    (least_of parts').beq (least_of parts) fun _ => (same.map _).mem_iff
  refine ⟨?_, energy⟩
  rw [front]
  apply indices_mergeObserved parts' cap sorted
  refine List.Perm.trans ?_ perm.symm
  have alike : indicesAt parts'.flatten (mergeObserved parts' cap).energy =
      indicesAt parts'.flatten (mergeObserved parts cap).energy := by
    simp only [indicesAt, beq_congr_right energy]
  rw [alike]
  exact indicesAt_perm same _

/-- An incumbent that meets nothing defined, one that meets index five at zero, one that meets it again and index three
at a negative zero, and one that meets nothing. -/
def dealtOut : List (List (Index × Float)) :=
  [[(7, Float.ofBits 0x7FF8000000000000)], [(5, 0), (3, 2)], [(3, -0), (5, 0)], []]

/-- A single incumbent that meets the same in the opposite order. -/
def together : List (List (Index × Float)) :=
  [[(5, 0), (3, -0), (3, 2), (5, 0), (7, Float.ofBits 0x7FF8000000000000)]]

/-- Index five counts twice, and there is room for it once only. -/
theorem merge_observed_dealtOut :
    together.flatten.Perm dealtOut.flatten ∧ (mergeObserved together 2).indices = [3, 5] ∧
      ((mergeObserved together 2).energy == (0 : Float)) = true := by
  have same : together.flatten.Perm dealtOut.flatten := by decide +kernel
  obtain ⟨-, -, any⟩ := merge_observed dealtOut 2
  obtain ⟨indices, energy⟩ := any together same
  have sorted : ([3, 5, 5] : List Index).Pairwise (· ≤ ·) := by decide
  have apart : (mergeObserved dealtOut 2).indices = [3, 5] := by
    apply indices_mergeObserved dealtOut 2 sorted
    rw [energy_mergeObserved]
    decide +kernel
  have zero : ((mergeObserved dealtOut 2).energy == (0 : Float)) = true := by decide +kernel
  exact ⟨same, indices.trans apart, beq_trans energy zero⟩

end BinaryQuadratic.Incumbent
