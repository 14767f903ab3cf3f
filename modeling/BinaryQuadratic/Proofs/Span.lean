import BinaryQuadratic.Span

/-!
# Spans as parts of one list

The indices from one number up to another form one ascending list, and spans that follow each other are consecutive
parts of it: cutting a span into batches loses no index and repeats none (`flatMap_batches`).
-/

namespace BinaryQuadratic

namespace Index

/-- The indices `x` with `low ≤ x < high`, ascending. -/
def between (low high : Nat) : List Index := (List.range' low (high - low)).map UInt64.ofNat

@[simp]
theorem between_of_le {low high : Nat} (h : high ≤ low) : between low high = [] := by
  rw [between, Nat.sub_eq_zero_of_le h]
  rfl

theorem between_append {low middle high : Nat} (h : low ≤ middle) (h' : middle ≤ high) :
    between low middle ++ between middle high = between low high := by
  have parts := List.range'_append_1 (s := low) (m := middle - low) (n := high - middle)
  rw [show low + (middle - low) = middle by omega, show middle - low + (high - middle) = high - low by omega] at parts
  rw [between, between, between, ← List.map_append, parts]

theorem mem_between {low high : Nat} (h : high ≤ 2 ^ 64) {x : Index} :
    x ∈ between low high ↔ low ≤ x.toNat ∧ x.toNat < high := by
  simp only [between, List.mem_map, List.mem_range'_1]
  constructor
  · rintro ⟨k, ⟨atLeast, below⟩, rfl⟩
    have small : k < UInt64.size := by rw [UInt64.size]; omega
    rw [UInt64.toNat_ofNat_of_lt' small]
    omega
  · rintro ⟨atLeast, below⟩
    exact ⟨x.toNat, ⟨atLeast, by omega⟩, UInt64.ofNat_toNat⟩

/-- No index comes twice, and they are in ascending order. -/
theorem pairwise_between {low high : Nat} (h : high ≤ 2 ^ 64) : (between low high).Pairwise (· < ·) := by
  rw [between, List.pairwise_map]
  refine List.Pairwise.imp_of_mem ?_ List.pairwise_lt_range'
  intro a b ha hb less
  rw [List.mem_range'_1] at ha hb
  rw [UInt64.lt_iff_toNat_lt, UInt64.toNat_ofNat_of_lt' (by rw [UInt64.size]; omega),
    UInt64.toNat_ofNat_of_lt' (by rw [UInt64.size]; omega)]
  exact less

end Index

namespace Span

theorem indices_eq_between (s : Span) : s.indices = Index.between s.start.toNat s.stop.toNat := rfl

/-- The indices of a span, counted from its start. -/
theorem indices_eq_map (s : Span) : s.indices = (List.range s.size).map fun r => s.start + r.toUInt64 := by
  rw [indices, List.range'_eq_map_range, List.map_map]
  apply List.map_congr_left
  intro r _
  show UInt64.ofNat (s.start.toNat + r) = s.start + UInt64.ofNat r
  rw [UInt64.ofNat_add, UInt64.ofNat_toNat]

/-- A batch of a span lies in it, is not empty and not longer than asked for. -/
theorem mem_batches {s : Span} {count : Count} {b : Span} (h : b ∈ s.batches count) :
    s.start ≤ b.start ∧ b.start < b.stop ∧ b.stop ≤ s.stop ∧ b.size ≤ count.1.toNat := by
  fun_induction batches s count with
  | case1 s nonempty middle ih =>
    have low := UInt64.lt_iff_toNat_lt.1 nonempty
    have pos := UInt64.lt_iff_toNat_lt.1 count.2
    have bound := s.stop.toNat_lt
    have reach : middle.toNat = min (min (s.start.toNat + count.1.toNat) (2 ^ 64 - 1)) s.stop.toNat := by
      rw [Index.toNat_min, Index.toNat_addSat]
    change 0 < _ at pos
    simp only [UInt64.le_iff_toNat_le, UInt64.lt_iff_toNat_lt] at ih ⊢
    rcases List.mem_cons.1 h with rfl | rest
    · -- the first batch
      simp only [size]
      omega
    · obtain ⟨start, nonempty', stop, short⟩ := ih rest
      omega
  | case2 s empty => exact absurd h List.not_mem_nil

theorem batches_of_empty {s : Span} (empty : ¬ s.start < s.stop) (count : Count) : s.batches count = [] := by
  rw [batches, dif_neg empty]

/-- A span that is not longer than a batch is one. -/
theorem batches_of_short {s : Span} {count : Count} (nonempty : s.start < s.stop) (short : s.size ≤ count.1.toNat) :
    s.batches count = [s] := by
  have low := UInt64.lt_iff_toNat_lt.1 nonempty
  have bound := s.stop.toNat_lt
  have reach : min (s.start.addSat count) s.stop = s.stop := by
    apply UInt64.toNat_inj.1
    rw [Index.toNat_min, Index.toNat_addSat]
    simp only [size] at short
    omega
  rw [batches, dif_pos nonempty]
  simp only [reach]
  rw [batches_of_empty (UInt64.lt_irrefl s.stop)]

theorem indices_of_empty {s : Span} (empty : ¬ s.start < s.stop) : s.indices = [] := by
  rw [UInt64.lt_iff_toNat_lt] at empty
  rw [indices_eq_between, Index.between_of_le (by omega)]

/-- The batches of a span hold its indices, in order. -/
theorem flatMap_batches (s : Span) (count : Count) : (s.batches count).flatMap indices = s.indices := by
  fun_induction batches s count with
  | case1 s nonempty middle ih =>
    have low := UInt64.lt_iff_toNat_lt.1 nonempty
    have reach : middle.toNat = min (min (s.start.toNat + count.1.toNat) (2 ^ 64 - 1)) s.stop.toNat := by
      rw [Index.toNat_min, Index.toNat_addSat]
    have bound := s.stop.toNat_lt
    rw [List.flatMap_cons, ih]
    simp only [indices_eq_between]
    -- the first batch ends where the rest begins
    exact Index.between_append (by omega) (by omega)
  | case2 s empty =>
    have high : s.stop.toNat ≤ s.start.toNat := by
      rw [UInt64.lt_iff_toNat_lt] at empty
      omega
    rw [List.flatMap_nil, indices_eq_between, Index.between_of_le high]

end Span

end BinaryQuadratic
