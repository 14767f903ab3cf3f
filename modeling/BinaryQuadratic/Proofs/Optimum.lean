import BinaryQuadratic.Assignment
import BinaryQuadratic.Proofs.Incumbent

/-!
# Optima of a scan

What a scan of all indices below a stop has to report, whatever their values are: a minimum, which is the least of the
values that are defined, or infinity if none is; and the first indices at that value, ascending, up to a cap. Merging
incumbents reports the minimum if together they met every index below the stop (`optimum_merge`), and the first indices
at it if they met every index once, no matter which of them met which and in what order (`indices_merge`).
-/

namespace BinaryQuadratic

open Scalar

variable {R : Type} [Scalar R]

/-- The minimum is the least of the defined values of the indices below the stop, or infinity if none is defined. -/
structure Optimum (value : Index → R) (stop : Nat) (minimum : R) : Prop where
  not_below (x : Index) : x.toNat < stop → below (value x) minimum = false
  attained : (∃ x : Index, x.toNat < stop ∧ (value x == minimum) = true) ∨
    minimum = infinity ∧ ∀ x : Index, x.toNat < stop → ¬ IsDefined (value x)
  origin : minimum = infinity ∨ ∃ x : Index, x.toNat < stop ∧ value x = minimum

/-- The first indices below the stop at the given value, ascending, at most `cap` of them. -/
def firstAt (value : Index → R) (stop cap : Nat) (minimum : R) : List Index :=
  ((Index.between 0 stop).filter fun x => value x == minimum).take cap

/-- What a scan of the indices below the stop has to report for `n` variables: the optimum, and the assignments of the
first indices that reach it. -/
structure Reported (value : Index → R) (n stop cap : Nat) (minimum : R) (solutions : List Assignment) : Prop where
  optimum : Optimum value stop minimum
  decoded : solutions = (firstAt value stop cap minimum).map (·.decode n)

theorem mem_between_zero {stop : Nat} (h : stop ≤ 2 ^ 64) {x : Index} :
    x ∈ Index.between 0 stop ↔ x.toNat < stop := by
  rw [Index.mem_between h]
  simp

theorem beq_of_mem_firstAt {value : Index → R} {stop cap : Nat} {minimum : R} {x : Index}
    (h : x ∈ firstAt value stop cap minimum) : (value x == minimum) = true :=
  (List.mem_filter.1 (List.mem_of_mem_take h)).2

theorem lt_of_mem_firstAt {value : Index → R} {stop cap : Nat} {minimum : R} (bound : stop ≤ 2 ^ 64) {x : Index}
    (h : x ∈ firstAt value stop cap minimum) : x.toNat < stop :=
  (mem_between_zero bound).1 (List.mem_filter.1 (List.mem_of_mem_take h)).1

/-- If the minimum is reached at all, some index is reported. -/
theorem exists_mem_firstAt {value : Index → R} {stop cap : Nat} {minimum : R} (bound : stop ≤ 2 ^ 64) (pos : 0 < cap)
    {x : Index} (hx : x.toNat < stop) (reached : (value x == minimum) = true) :
    ∃ y, y ∈ firstAt value stop cap minimum := by
  have met : x ∈ (Index.between 0 stop).filter fun x => value x == minimum :=
    List.mem_filter.2 ⟨(mem_between_zero bound).2 hx, reached⟩
  unfold firstAt
  cases hall : (Index.between 0 stop).filter fun x => value x == minimum with
  | nil => exact absurd (hall ▸ met) List.not_mem_nil
  | cons y ys =>
    obtain ⟨k, rfl⟩ : ∃ k, cap = k + 1 := ⟨cap - 1, by omega⟩
    exact ⟨y, List.mem_cons_self⟩

theorem Optimum.isDefined [Ordered R] {value : Index → R} {stop : Nat} {minimum : R} (h : Optimum value stop minimum) :
    IsDefined minimum := by
  rcases h.attained with ⟨x, -, reached⟩ | ⟨rfl, -⟩
  · exact (isDefined_of_beq reached).2
  · exact isDefined_infinity

/-! ## Merged incumbents -/

namespace Incumbent

variable {value : Index → R} {parts : List (Incumbent R × List Index)} {stop : Nat}

/-- Incumbents with what they met, which is every index below the stop, and perhaps some of them more than once. -/
structure Covers (value : Index → R) (parts : List (Incumbent R × List Index)) (stop : Nat) : Prop where
  follows : ∀ part ∈ parts, part.1.Follows value stop part.2
  every (x : Index) : x.toNat < stop → x ∈ parts.flatMap (·.2)

/-- Incumbents with what they met, dealt out so that every index below the stop was met once. -/
structure Shares (value : Index → R) (parts : List (Incumbent R × List Index)) (stop : Nat) : Prop where
  holds : ∀ part ∈ parts, part.1.Holds value part.2
  perm : (parts.flatMap (·.2)).Perm (Index.between 0 stop)

theorem Shares.covers (h : Shares value parts stop) (bound : stop ≤ 2 ^ 64) : Covers value parts stop where
  follows part hpart := by
    refine ⟨part.2, fun x hx => ?_, (h.holds part hpart).tracks⟩
    exact (mem_between_zero bound).1 (h.perm.mem_iff.1 (List.mem_flatMap.2 ⟨part, hpart, hx⟩))
  every x hx := h.perm.mem_iff.2 ((mem_between_zero bound).2 hx)

/-- The least energy of the incumbents. -/
theorem energy_merge (incumbents : List (Incumbent R)) (cap : Nat) :
    (merge incumbents cap).energy = least (incumbents.map (·.energy)) := rfl

variable [Ordered R]

theorem optimum_merge (h : Covers value parts stop) (cap : Nat) :
    Optimum value stop (merge (parts.map (·.1)) cap).energy := by
  rw [energy_merge]
  have defined : IsDefined (least ((parts.map (·.1)).map (·.energy))) := isDefined_least _
  have notBelow (x : Index) (hx : x.toNat < stop) :
      below (value x) (least ((parts.map (·.1)).map (·.energy))) = false := by
    -- the value is not below the incumbent that met it, nor is that one below the least
    obtain ⟨part, hpart, hmem⟩ := List.mem_flatMap.1 (h.every x hx)
    obtain ⟨seen, -, tracks⟩ := h.follows part hpart
    have own := tracks.not_below (tracks.within x hmem)
    have all : below part.1.energy (least ((parts.map (·.1)).map (·.energy))) = false :=
      not_below_least (List.mem_map_of_mem (List.mem_map_of_mem hpart))
    exact not_below_trans tracks.isDefined defined own all
  have origin : least ((parts.map (·.1)).map (·.energy)) = infinity ∨
      ∃ x : Index, x.toNat < stop ∧ value x = least ((parts.map (·.1)).map (·.energy)) := by
    rcases least_eq_infinity_or_mem ((parts.map (·.1)).map (·.energy)) with none | some
    · exact Or.inl none
    · obtain ⟨c, hc, hleast⟩ := List.mem_map.1 some
      obtain ⟨part, hpart, rfl⟩ := List.mem_map.1 hc
      obtain ⟨seen, low, tracks⟩ := h.follows part hpart
      rw [← hleast, tracks.energy]
      rcases least_eq_infinity_or_mem (seen.map value) with none | some
      · exact Or.inl none
      · obtain ⟨x, hx, hvalue⟩ := List.mem_map.1 some
        exact Or.inr ⟨x, low x hx, hvalue⟩
  refine ⟨notBelow, ?_, origin⟩
  rcases origin with none | ⟨x, hx, hvalue⟩
  · by_cases some : ∃ x : Index, x.toNat < stop ∧ IsDefined (value x)
    · -- a value that is defined and not below infinity equals infinity
      obtain ⟨x, hx, hdefined⟩ := some
      refine Or.inl ⟨x, hx, ?_⟩
      apply beq_of_not_below hdefined defined (notBelow x hx)
      rw [none, infinity_not_below]
    · exact Or.inr ⟨none, fun x hx hdefined => some ⟨x, hx, hdefined⟩⟩
  · refine Or.inl ⟨x, hx, ?_⟩
    rw [hvalue]
    exact defined

omit [Ordered R] in
/-- The ties of the incumbents at some energy, when it is known of each what it contributes. -/
theorem flatMap_ties_of {α : Type} {incumbent : α → Incumbent R} {share : α → List Index} {energy : R} {parts : List α}
    (h : ∀ part ∈ parts,
      share part = if ((incumbent part).energy == energy) = true then (incumbent part).ties.toList else []) :
    ((parts.map incumbent).filter (·.energy == energy)).flatMap (·.ties.toList) = parts.flatMap share := by
  induction parts with
  | nil => rfl
  | cons part parts ih =>
    have rest := ih fun other among => h other (List.mem_cons_of_mem _ among)
    rw [List.map_cons, List.filter_cons, List.flatMap_cons, ← rest, h part List.mem_cons_self]
    split <;> simp

/-- The ties of the incumbents at the least energy are all that was met at that energy. -/
theorem flatMap_ties (h : ∀ part ∈ parts, part.1.Follows value stop part.2) {energy : R}
    (least_parts : energy = least ((parts.map (·.1)).map (·.energy))) :
    ((parts.map (·.1)).filter (·.energy == energy)).flatMap (·.ties.toList) =
      (parts.flatMap (·.2)).filter fun x => value x == energy := by
  have defined : IsDefined energy := least_parts ▸ isDefined_least _
  rw [List.filter_flatMap]
  apply flatMap_ties_of
  intro part among
  obtain ⟨seen, -, own⟩ := h part among
  split
  · next same =>
    rw [own.ties]
    simp only [beq_congr_right same]
  · next other =>
    -- an incumbent at a higher energy met nothing at the least one
    have lowest : below part.1.energy energy = false := by
      rw [least_parts]
      exact not_below_least (List.mem_map_of_mem (List.mem_map_of_mem among))
    exact own.filter_eq_nil (below_of_not_below own.isDefined defined lowest other)

omit [Scalar R] [Ordered R] in
theorem pairwise_mergeSort (met : List Index) : (met.mergeSort fun x y => decide (x ≤ y)).Pairwise (· ≤ ·) := by
  have sorted : (met.mergeSort fun x y => decide (x ≤ y)).Pairwise fun x y => decide (x ≤ y) = true := by
    refine List.pairwise_mergeSort ?_ ?_ met
    · intro a b c first second
      exact decide_eq_true (UInt64.le_trans (of_decide_eq_true first) (of_decide_eq_true second))
    · intro a b
      simpa using UInt64.le_total a b
  exact sorted.imp of_decide_eq_true

omit [Ordered R] in
/-- Merging reports the front of any ascending list of the ties at the least energy. -/
theorem indices_merge_of_perm {incumbents : List (Incumbent R)} {cap : Nat} {ascending : List Index}
    (sorted : ascending.Pairwise (· ≤ ·))
    (perm : ((incumbents.filter (·.energy == (merge incumbents cap).energy)).flatMap (·.ties.toList)).Perm ascending) :
    (merge incumbents cap).indices = ascending.take cap := by
  show (List.mergeSort _ _).take cap = _
  congr 1
  refine List.Perm.eq_of_pairwise ?_ (pairwise_mergeSort _) sorted ?_
  · intro a b _ _ atMost atLeast
    exact UInt64.le_antisymm atMost atLeast
  · exact (List.mergeSort_perm _ _).trans perm

/-- Merging reports the front of any ascending list of what was met at the least energy. -/
theorem indices_merge_eq (h : ∀ part ∈ parts, part.1.Follows value stop part.2) (cap : Nat) {ascending : List Index}
    (sorted : ascending.Pairwise (· ≤ ·))
    (perm : ((parts.flatMap (·.2)).filter fun x => value x == (merge (parts.map (·.1)) cap).energy).Perm ascending) :
    (merge (parts.map (·.1)) cap).indices = ascending.take cap := by
  apply indices_merge_of_perm sorted
  rwa [flatMap_ties h (energy_merge _ cap)]

theorem indices_merge (h : Shares value parts stop) (bound : stop ≤ 2 ^ 64) (cap : Nat) :
    (merge (parts.map (·.1)) cap).indices = firstAt value stop cap (merge (parts.map (·.1)) cap).energy := by
  refine indices_merge_eq (h.covers bound).follows cap ?_ (h.perm.filter _)
  exact List.Pairwise.filter _ ((Index.pairwise_between bound).imp UInt64.le_of_lt)

end Incumbent

end BinaryQuadratic
