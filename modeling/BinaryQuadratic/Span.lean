import BinaryQuadratic.Index

/-!
# Spans of indices

A span holds the indices from its start up to, and without, its stop. It is empty when the stop is not past the start.
A long span is worked off in batches: consecutive spans of a given size, of which only the last may be shorter.
-/

namespace BinaryQuadratic

/-- The indices `x` with `start ≤ x < stop`. -/
structure Span where
  start : Index
  stop : Index
  deriving DecidableEq, Inhabited

namespace Span

instance : Membership Index Span := ⟨fun s x => s.start ≤ x ∧ x < s.stop⟩

theorem mem_iff {s : Span} {x : Index} : x ∈ s ↔ s.start ≤ x ∧ x < s.stop := Iff.rfl

instance (s : Span) (x : Index) : Decidable (x ∈ s) := inferInstanceAs (Decidable (_ ∧ _))

/-- Whether the span holds no index. -/
def isEmpty (s : Span) : Bool := decide (s.stop ≤ s.start)

/-- Number of indices in the span. -/
def size (s : Span) : Nat := s.stop.toNat - s.start.toNat

/-- The indices of the span, ascending. -/
def indices (s : Span) : List Index :=
  (List.range' s.start.toNat s.size).map UInt64.ofNat

theorem mem_indices {s : Span} {x : Index} : x ∈ s.indices ↔ x ∈ s := by
  have bound := s.stop.toNat_lt
  simp only [indices, size, List.mem_map, List.mem_range'_1, mem_iff, UInt64.le_iff_toNat_le,
    UInt64.lt_iff_toNat_lt]
  constructor
  · rintro ⟨k, ⟨low, high⟩, rfl⟩
    have small : k < UInt64.size := by rw [UInt64.size]; omega
    rw [UInt64.toNat_ofNat_of_lt' small]
    omega
  · rintro ⟨low, high⟩
    exact ⟨x.toNat, ⟨low, by omega⟩, UInt64.ofNat_toNat⟩

@[simp]
theorem length_indices (s : Span) : s.indices.length = s.size := by simp [indices]

/-- Whether two spans have an index in common, for spans that are not empty. -/
def overlaps (a b : Span) : Bool := decide (a.start < b.stop) && decide (b.start < a.stop)

/-- The span in batches of `count` indices, first to last. Each batch starts a saturating sum after the one before, so
that batches come to an end for every span. A loop that adds the words plainly has the same batches where no sum wraps
(`passes_iff`); with fewer than 64 variables and batches no longer than their space none does. -/
def batches (s : Span) (count : Count) : List Span :=
  if _nonempty : s.start < s.stop then
    let middle := min (s.start.addSat count) s.stop
    ⟨s.start, middle⟩ :: batches ⟨middle, s.stop⟩ count
  else []
termination_by s.stop.toNat - s.start.toNat
decreasing_by
  rw [UInt64.lt_iff_toNat_lt] at _nonempty
  have pos := UInt64.lt_iff_toNat_lt.1 count.2
  have bound := s.stop.toNat_lt
  simp only [Index.toNat_min, Index.toNat_addSat]
  change 0 < _ at pos
  omega

end Span

end BinaryQuadratic
