import BinaryQuadratic.Incumbent
import BinaryQuadratic.Proofs.Scalar.Order

/-!
# What is left of observations

An incumbent takes in observations, each an index with an energy; an index may come again, also with another energy.
What is left of them does not depend on the steps in between. The energy is the least of the energy before and of all
that were observed (`energy_observeAll`). The ties are the indices observed at that energy, in order, and before them
those that were kept already, unless the energy is lower than before (`ties_observeAll`).

So observations can be taken in as a whole when their least energy is known first: move down to it, then keep the
indices observed at it, if they reach the incumbent (`take_eq_observeAll`).
-/

namespace BinaryQuadratic.Incumbent

open Scalar

variable {R : Type} [Scalar R]

/-- The indices that were observed at this energy, in order. -/
def indicesAt (met : List (Index × R)) (energy : R) : List Index := (met.filter (·.2 == energy)).map (·.1)

@[simp]
theorem indicesAt_nil (energy : R) : indicesAt [] energy = [] := rfl

theorem indicesAt_cons (x : Index) (e : R) (met : List (Index × R)) (energy : R) :
    indicesAt ((x, e) :: met) energy = (if (e == energy) = true then [x] else []) ++ indicesAt met energy := by
  by_cases same : (e == energy) = true
  · simp [indicesAt, same]
  · simp [indicesAt, same]

/-- Observations of indices that are numbered. -/
theorem indicesAt_map (value : Index → R) (xs : List Index) (energy : R) :
    indicesAt (xs.map fun x => (x, value x)) energy = xs.filter fun x => value x == energy := by
  simp [indicesAt, List.filter_map, Function.comp_def]

theorem indicesAt_append (met more : List (Index × R)) (energy : R) :
    indicesAt (met ++ more) energy = indicesAt met energy ++ indicesAt more energy := by
  simp [indicesAt]

/-- What an incumbent keeps when its energy moves down as far as this. -/
def keptAt (c : Incumbent R) (energy : R) : List Index := if below energy c.energy then [] else c.ties.toList

@[simp]
theorem keptAt_empty (energy : R) : (empty : Incumbent R).keptAt energy = [] := by
  unfold keptAt
  split <;> rfl

/-- Moves down to an energy, and keeps these indices if they reach the incumbent then. -/
def take (c : Incumbent R) (energy : R) (indices : List Index) : Incumbent R :=
  if (c.lower energy).reaches energy then (c.lower energy).extend indices else c.lower energy

omit [Scalar R] in
theorem ext_toList {c c' : Incumbent R} (energy : c.energy = c'.energy) (ties : c.ties.toList = c'.ties.toList) :
    c = c' := by
  cases c
  cases c'
  simp_all [Array.toList_inj]

@[simp]
theorem energy_lower (c : Incumbent R) (energy : R) : (c.lower energy).energy = lesser c.energy energy := by
  unfold lower lesser
  split <;> rfl

@[simp]
theorem toList_ties_lower (c : Incumbent R) (energy : R) : (c.lower energy).ties.toList = c.keptAt energy := by
  unfold lower keptAt
  split <;> rfl

@[simp]
theorem energy_take (c : Incumbent R) (energy : R) (indices : List Index) :
    (c.take energy indices).energy = lesser c.energy energy := by
  rw [← energy_lower]
  unfold take
  split <;> rfl

theorem toList_ties_take (c : Incumbent R) (energy : R) (indices : List Index) :
    (c.take energy indices).ties.toList =
      c.keptAt energy ++ if (energy == lesser c.energy energy) = true then indices else [] := by
  rw [← energy_lower, ← toList_ties_lower]
  unfold take reaches
  split
  · simp [extend]
  · simp

/-- An observation is taken in like any others whose least energy is known. -/
theorem observe_eq_take (c : Incumbent R) (x : Index) (e : R) : c.observe x e = c.take e [x] := by
  unfold observe take extend
  rfl

/-! ## Taking in one after the other -/

theorem energy_observeAll (c : Incumbent R) (met : List (Index × R)) :
    (c.observeAll met).energy = (met.map (·.2)).foldl lesser c.energy := by
  induction met generalizing c with
  | nil => rfl
  | cons o met ih =>
    have next := ih (c.observe o.1 o.2)
    rw [observe_eq_take, energy_take, ← observe_eq_take] at next
    exact next

/-- A fresh incumbent has the least of what was observed. -/
theorem energy_observeAll_empty (met : List (Index × R)) :
    ((empty : Incumbent R).observeAll met).energy = least (met.map (·.2)) := energy_observeAll _ _

variable [Ordered R] {c : Incumbent R}

theorem isDefined_observe (defined : IsDefined c.energy) (x : Index) (e : R) : IsDefined (c.observe x e).energy := by
  rw [observe_eq_take, energy_take]
  exact isDefined_lesser defined

theorem keptAt_lesser (c : Incumbent R) (energy : R) : c.keptAt (lesser c.energy energy) = c.keptAt energy := by
  rw [keptAt, keptAt, below_lesser_self]

/-- What is left of one observation when the energy moves down further, to this one. -/
theorem keptAt_observe (defined : IsDefined c.energy) (x : Index) (e : R) {energy : R} (final : IsDefined energy)
    (low : below (lesser c.energy e) energy = false) :
    (c.observe x e).keptAt energy = c.keptAt energy ++ if (e == energy) = true then [x] else [] := by
  rw [keptAt, keptAt, observe_eq_take, energy_take, toList_ties_take, keptAt]
  by_cases lower : below energy (lesser c.energy e) = true
  · -- neither what was kept before nor the new index is as low
    have lower' : below energy c.energy = true := below_of_below_of_not_below lower (not_below_lesser_left _ _) defined
    have apart : ¬ (e == energy) = true := by
      intro same
      have under := below_of_beq_of_below same lower
      rw [not_below_lesser_right] at under
      exact Bool.false_ne_true under
    simp [lower, lower', apart]
  · -- the energy is that of the incumbent after the observation
    simp only [Bool.not_eq_true] at lower
    have same := beq_of_not_below final (isDefined_lesser defined) lower low
    rw [if_neg (by simp [lower]), below_congr_left same, below_lesser_self, ← beq_congr_right same]

/-- The indices at the least energy, after those that were kept already if it is not lower. -/
theorem ties_observeAll (defined : IsDefined c.energy) (met : List (Index × R)) :
    (c.observeAll met).ties.toList =
      c.keptAt (c.observeAll met).energy ++ indicesAt met (c.observeAll met).energy := by
  induction met generalizing c with
  | nil => simp [observeAll, keptAt, below_irrefl]
  | cons o met ih =>
    obtain ⟨x, e⟩ := o
    have next := ih (isDefined_observe defined x e)
    have final : IsDefined ((c.observe x e).observeAll met).energy := by
      rw [energy_observeAll]
      exact isDefined_foldl_lesser (isDefined_observe defined x e) _
    have low : below (lesser c.energy e) ((c.observe x e).observeAll met).energy = false := by
      rw [energy_observeAll, observe_eq_take, energy_take]
      exact not_below_foldl_lesser (isDefined_lesser defined) _
    rw [keptAt_observe defined x e final low, List.append_assoc, ← indicesAt_cons] at next
    exact next

/-- A fresh incumbent has the indices at the least energy. -/
theorem ties_observeAll_empty (met : List (Index × R)) :
    ((empty : Incumbent R).observeAll met).ties.toList = indicesAt met (least (met.map (·.2))) := by
  rw [ties_observeAll isDefined_infinity, energy_observeAll_empty, keptAt_empty, List.nil_append]

/-! ## Taking in at once -/

/-- Nothing was observed below the least energy. -/
theorem indicesAt_eq_nil {met : List (Index × R)} {energy : R} (low : below energy (least (met.map (·.2))) = true) :
    indicesAt met energy = [] := by
  simp only [indicesAt, List.map_eq_nil_iff, List.filter_eq_nil_iff]
  intro o among same
  have under := below_of_beq_of_below same low
  rw [not_below_least (List.mem_map_of_mem among)] at under
  exact Bool.false_ne_true under

/-- What was observed at the smaller of a number and the least energy: the indices at the least energy, if that is not
higher. -/
theorem indicesAt_lesser {a : R} (defined : IsDefined a) (met : List (Index × R)) :
    indicesAt met (lesser a (least (met.map (·.2)))) =
      if (least (met.map (·.2)) == lesser a (least (met.map (·.2)))) = true then indicesAt met (least (met.map (·.2)))
      else [] := by
  split
  · next reached => simp only [indicesAt, beq_congr_right reached]
  · next higher =>
    apply indicesAt_eq_nil
    exact below_of_not_below (isDefined_least _) (isDefined_lesser defined) (not_below_lesser_right a _) higher

/-- Observations whose least energy is known can be taken in as a whole. -/
theorem take_eq_observeAll (defined : IsDefined c.energy) (met : List (Index × R)) :
    c.take (least (met.map (·.2))) (indicesAt met (least (met.map (·.2)))) = c.observeAll met := by
  have energy : (c.observeAll met).energy = lesser c.energy (least (met.map (·.2))) := by
    rw [energy_observeAll, foldl_lesser defined]
  apply ext_toList
  · rw [energy_take, energy]
  · rw [ties_observeAll defined, toList_ties_take, energy, keptAt_lesser, indicesAt_lesser defined]

end BinaryQuadratic.Incumbent
