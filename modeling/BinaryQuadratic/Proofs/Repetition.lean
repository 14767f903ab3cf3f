import BinaryQuadratic.Proofs.Index
import BinaryQuadratic.Proofs.Optimum

/-!
# Scans that meet indices more than once

Incumbents that together met every index below a stop, but some of them more than once, still report the optimum. Each
index at it comes in the merged list as often as it was met, so repetitions take up places among those that are reported
(`indices_merge_of_covers`). The list is that of a scan that meets every index once exactly if all reported indices but
perhaps the last one were met once (`repeatedAt_eq_firstAt_iff`).
-/

namespace BinaryQuadratic

variable {R : Type} [Scalar R]

/-! ## Lists with repetitions -/

/-- The list with each index as often as said, one after the other. -/
def repeatedBy (times : Index → Nat) (xs : List Index) : List Index := xs.flatMap fun x => List.replicate (times x) x

section Repeated

variable {times : Index → Nat} {xs : List Index}

@[simp]
theorem repeatedBy_nil (times : Index → Nat) : repeatedBy times [] = [] := rfl

@[simp]
theorem repeatedBy_cons (times : Index → Nat) (x : Index) (xs : List Index) :
    repeatedBy times (x :: xs) = List.replicate (times x) x ++ repeatedBy times xs := rfl

theorem mem_repeatedBy {x : Index} : x ∈ repeatedBy times xs ↔ x ∈ xs ∧ times x ≠ 0 := by
  simp only [repeatedBy, List.mem_flatMap, List.mem_replicate]
  constructor
  · rintro ⟨y, among, nonzero, rfl⟩
    exact ⟨among, nonzero⟩
  · rintro ⟨among, nonzero⟩
    exact ⟨x, among, nonzero, rfl⟩

theorem count_repeatedBy (nodup : xs.Nodup) (x : Index) :
    (repeatedBy times xs).count x = if x ∈ xs then times x else 0 := by
  induction xs with
  | nil => simp
  | cons y xs ih =>
    obtain ⟨new, nodup⟩ := List.nodup_cons.1 nodup
    rw [repeatedBy_cons, List.count_append, List.count_replicate, ih nodup]
    by_cases same : y = x
    · subst same
      simp [new]
    · simp [same, Ne.symm same]

theorem pairwise_repeatedBy (ascending : xs.Pairwise (· < ·)) : (repeatedBy times xs).Pairwise (· ≤ ·) := by
  induction xs with
  | nil => exact .nil
  | cons x xs ih =>
    obtain ⟨low, ascending⟩ := List.pairwise_cons.1 ascending
    rw [repeatedBy_cons, List.pairwise_append]
    refine ⟨List.pairwise_replicate.2 (Or.inr (UInt64.le_refl x)), ih ascending, ?_⟩
    intro a first b second
    rw [List.eq_of_mem_replicate first]
    exact UInt64.le_of_lt (low b (mem_repeatedBy.1 second).1)

/-- A list in which every index comes at least once keeps its front exactly if none of it comes twice, but perhaps the
last of it. -/
theorem take_repeatedBy_eq_iff (nodup : xs.Nodup) (present : ∀ x ∈ xs, 1 ≤ times x) (cap : Nat) :
    (repeatedBy times xs).take cap = xs.take cap ↔ ∀ x ∈ xs.take (cap - 1), times x = 1 := by
  induction xs generalizing cap with
  | nil => simp
  | cons x xs ih =>
    obtain ⟨new, nodup⟩ := List.nodup_cons.1 nodup
    obtain ⟨more, often⟩ : ∃ more, times x = more + 1 := ⟨times x - 1, by have := present x List.mem_cons_self; omega⟩
    have rest := ih nodup fun y hy => present y (List.mem_cons_of_mem _ hy)
    rw [repeatedBy_cons, often, List.replicate_succ, List.cons_append]
    match cap with
    | 0 => simp
    | 1 => simp
    | cap + 2 =>
      rw [List.take_succ_cons, List.take_succ_cons, show cap + 2 - 1 = cap + 1 by omega, List.take_succ_cons]
      simp only [List.cons.injEq, true_and, List.forall_mem_cons, often]
      cases more with
      | zero => simpa using rest (cap + 1)
      | succ more =>
        -- the index comes a second time where another one should, or none
        refine iff_of_false (fun same => ?_) (fun once => by omega)
        have again : x ∈ xs.take (cap + 1) := by
          rw [← same, List.replicate_succ, List.cons_append, List.take_succ_cons]
          exact List.mem_cons_self
        exact new (List.mem_of_mem_take again)

end Repeated

/-! ## What is reported -/

/-- The first indices below the stop at the given value, ascending, each as often as said, at most `cap` in all. -/
def repeatedAt (value : Index → R) (stop cap : Nat) (times : Index → Nat) (minimum : R) : List Index :=
  (repeatedBy times ((Index.between 0 stop).filter fun x => value x == minimum)).take cap

variable {value : Index → R} {stop : Nat} {times : Index → Nat}

theorem nodup_filter_between (bound : stop ≤ 2 ^ 64) (select : Index → Bool) :
    ((Index.between 0 stop).filter select).Nodup := by
  refine List.Pairwise.filter select ((Index.pairwise_between bound).imp ?_)
  intro x y less same
  exact UInt64.lt_irrefl y (same ▸ less)

/-- Repetitions change nothing exactly if all that is reported, but perhaps the last, was met once. -/
theorem repeatedAt_eq_firstAt_iff (bound : stop ≤ 2 ^ 64) (present : ∀ x : Index, x.toNat < stop → 1 ≤ times x)
    (cap : Nat) (minimum : R) :
    repeatedAt value stop cap times minimum = firstAt value stop cap minimum ↔
      ∀ x ∈ firstAt value stop (cap - 1) minimum, times x = 1 := by
  refine take_repeatedBy_eq_iff (nodup_filter_between bound _) (fun x hx => present x ?_) cap
  exact (mem_between_zero bound).1 (List.mem_filter.1 hx).1

/-- The same, for the assignments that are reported. -/
theorem reported_repeatedAt_iff {n cap : Nat} {minimum : R} (small : n < 64)
    (present : ∀ x : Index, x.toNat < 2 ^ n → 1 ≤ times x) (optimum : Optimum value (2 ^ n) minimum) :
    Reported value n (2 ^ n) cap minimum ((repeatedAt value (2 ^ n) cap times minimum).map (·.decode n)) ↔
      ∀ x ∈ firstAt value (2 ^ n) (cap - 1) minimum, times x = 1 := by
  have bound : 2 ^ n ≤ 2 ^ 64 := Nat.pow_le_pow_right (by omega) (by omega)
  rw [← repeatedAt_eq_firstAt_iff bound present]
  constructor
  · -- assignments of indices below the limit tell the indices
    intro reported
    have low : ∀ x ∈ repeatedAt value (2 ^ n) cap times minimum, x.toNat < 2 ^ n := fun x hx =>
      (mem_between_zero bound).1 (List.mem_filter.1 (mem_repeatedBy.1 (List.mem_of_mem_take hx)).1).1
    exact Index.eq_of_map_decode low (fun x hx => lt_of_mem_firstAt bound hx) reported.decoded
  · intro same
    exact ⟨optimum, by rw [same]⟩

namespace Incumbent

variable {parts : List (Incumbent R × List Index)} [Scalar.Ordered R]

/-- Incumbents that met every index report the indices at the optimum, each as often as it was met. -/
theorem indices_merge_of_covers (h : Covers value parts stop) (bound : stop ≤ 2 ^ 64) (cap : Nat) :
    (merge (parts.map (·.1)) cap).indices =
      repeatedAt value stop cap (fun x => (parts.flatMap (·.2)).count x) (merge (parts.map (·.1)) cap).energy := by
  generalize atLeast : (merge (parts.map (·.1)) cap).energy = energy
  refine indices_merge_eq h.follows cap (pairwise_repeatedBy ?_) ?_
  · exact List.Pairwise.filter _ (Index.pairwise_between bound)
  · rw [atLeast, List.perm_iff_count]
    intro x
    rw [count_repeatedBy (nodup_filter_between bound _)]
    simp only [List.mem_filter, mem_between_zero bound]
    by_cases reached : (value x == energy) = true
    · rw [List.count_filter (p := fun x => value x == energy) reached]
      by_cases low : x.toNat < stop
      · rw [if_pos ⟨low, reached⟩]
      · -- nothing was met past the stop
        rw [if_neg fun both => low both.1, List.count_eq_zero]
        intro met
        obtain ⟨part, hpart, hmem⟩ := List.mem_flatMap.1 met
        exact low ((h.follows part hpart).lt hmem)
    · rw [if_neg fun both => reached both.2, List.count_eq_zero]
      exact fun among => reached (List.mem_filter.1 among).2

end Incumbent

end BinaryQuadratic
