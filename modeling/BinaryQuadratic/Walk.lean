import BinaryQuadratic.Span
import BinaryQuadratic.Step

/-!
# Walks along spans

A walk visits the indices of a span, or its batches, one after the other, and ends at the first visit that ends early;
what would come after it is not even listed. `walk_eq_forM` and `walkBatches_eq_forM` say that a walk does what visiting
the whole list does.
-/

namespace BinaryQuadratic.Span

variable {ε σ : Type}

/-- Visits this many indices, from `x` upwards. -/
@[specialize]
def walkFrom (visit : Index → Step ε σ Unit) : Nat → Index → Step ε σ Unit
  | 0, _ => pure ()
  | k + 1, x => do
    visit x
    walkFrom visit k (x + 1)

/-- Visits the indices of the span, ascending. -/
@[inline]
def walk (s : Span) (visit : Index → Step ε σ Unit) : Step ε σ Unit := walkFrom visit s.size s.start

/-- Visits the batches of the span, first to last. They move on by a saturating sum, for the reason given at
`batches`. -/
@[specialize]
def walkBatches (s : Span) (count : Count) (visit : Span → Step ε σ Unit) : Step ε σ Unit :=
  if _nonempty : s.start < s.stop then do
    let middle := min (s.start.addSat count) s.stop
    visit ⟨s.start, middle⟩
    walkBatches ⟨middle, s.stop⟩ count visit
  else pure ()
termination_by s.stop.toNat - s.start.toNat
decreasing_by
  rw [UInt64.lt_iff_toNat_lt] at _nonempty
  have pos := UInt64.lt_iff_toNat_lt.1 count.2
  have bound := s.stop.toNat_lt
  simp only [Index.toNat_min, Index.toNat_addSat]
  change 0 < _ at pos
  omega

/-! ## Walks and lists -/

theorem walkFrom_eq_forM (visit : Index → Step ε σ Unit) {k : Nat} {x : Index} (h : x.toNat + k ≤ 2 ^ 64) :
    walkFrom visit k x = forM ((List.range' x.toNat k).map UInt64.ofNat) visit := by
  induction k generalizing x with
  | zero => rfl
  | succ k ih =>
    rw [walkFrom, List.range'_succ, List.map_cons, List.forM_cons, UInt64.ofNat_toNat]
    by_cases last : k = 0
    · subst last
      rfl
    · have next : (x + 1).toNat = x.toNat + 1 := by
        rw [UInt64.toNat_add]
        exact Nat.mod_eq_of_lt (by change x.toNat + 1 < _; omega)
      rw [ih (by omega), next]

theorem walk_eq_forM (s : Span) (visit : Index → Step ε σ Unit) : s.walk visit = forM s.indices visit := by
  have low := s.start.toNat_lt
  have high := s.stop.toNat_lt
  exact walkFrom_eq_forM visit (by rw [size]; omega)

theorem walkBatches_eq_forM (s : Span) (count : Count) (visit : Span → Step ε σ Unit) :
    s.walkBatches count visit = forM (s.batches count) visit := by
  fun_induction batches s count with
  | case1 s nonempty middle ih =>
    rw [walkBatches, dif_pos nonempty, List.forM_cons, ← ih]
  | case2 s empty =>
    rw [walkBatches, dif_neg empty]
    rfl

end BinaryQuadratic.Span
