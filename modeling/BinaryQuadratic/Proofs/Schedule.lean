import BinaryQuadratic.Proofs.Span
import BinaryQuadratic.Schedule

/-!
# What rounds hand out

The tiles of a round hold, in the order of the workers, exactly the indices from the cursor up to the cursor of the
next round (`flatMap_round`), so rounds hand out every index once whatever the tile size and the number of workers. No
round has more tiles than there are workers, and the rounds counted by `roundsLeft` end at the stop.
-/

namespace BinaryQuadratic.Schedule

/-- Where the tile with number `i` of the current round starts, and the one before it stops. -/
def edge (s : Schedule) (i : Nat) : Nat := min (s.cursor.toNat + s.tileSize.1.toNat * i) s.stop.toNat

theorem tileSize_pos (s : Schedule) : 0 < s.tileSize.1.toNat := by
  have pos := UInt64.lt_iff_toNat_lt.1 s.tileSize.2
  exact pos

theorem workers_pos (s : Schedule) : 0 < s.workers.1.toNat := by
  have pos := UInt64.lt_iff_toNat_lt.1 s.workers.2
  exact pos

theorem toNat_cursor_le_stop (s : Schedule) : s.cursor.toNat ≤ s.stop.toNat :=
  UInt64.le_iff_toNat_le.1 s.cursor_le_stop

theorem edge_zero (s : Schedule) : s.edge 0 = s.cursor.toNat := by
  have := s.toNat_cursor_le_stop
  rw [edge]
  omega

theorem edge_le_stop (s : Schedule) (i : Nat) : s.edge i ≤ s.stop.toNat := Nat.min_le_right _ _

theorem edge_le_edge (s : Schedule) {i j : Nat} (h : i ≤ j) : s.edge i ≤ s.edge j := by
  have := Nat.mul_le_mul_left s.tileSize.1.toNat h
  simp only [edge]
  omega

theorem edge_succ (s : Schedule) (i : Nat) :
    s.edge (i + 1) = min (s.edge i + s.tileSize.1.toNat) s.stop.toNat := by
  simp only [edge, Nat.mul_succ]
  omega

/-- The cursor of the next round is where the tile after the last one would start. -/
theorem toNat_cursor_advance_eq_edge (s : Schedule) : s.advance.cursor.toNat = s.edge s.workers.1.toNat :=
  s.toNat_cursor_advance

theorem toNat_cursor_le_advance (s : Schedule) : s.cursor.toNat ≤ s.advance.cursor.toNat := by
  rw [toNat_cursor_advance_eq_edge, ← s.edge_zero]
  exact s.edge_le_edge (Nat.zero_le _)

section Tiles

variable {s : Schedule} {i : Nat}

theorem toNat_start_span (h : i < 2 ^ 64) : (s.span i).start.toNat = s.edge i := by
  have small : i.toUInt64.toNat = i := Nat.mod_eq_of_lt h
  have bound := s.stop.toNat_lt
  simp only [span, edge, Index.toNat_min, Index.toNat_addSat, Index.toNat_mulSat, small]
  omega

theorem toNat_stop_span (h : i < 2 ^ 64) : (s.span i).stop.toNat = s.edge (i + 1) := by
  have start : (min (s.cursor.addSat (Index.mulSat s.tileSize i.toUInt64)) s.stop).toNat = s.edge i :=
    toNat_start_span h
  have bound := s.stop.toNat_lt
  simp only [span, edge_succ, Index.toNat_min, Index.toNat_addSat] at start ⊢
  omega

theorem indices_span (h : i < 2 ^ 64) : (s.span i).indices = Index.between (s.edge i) (s.edge (i + 1)) := by
  rw [Span.indices_eq_between, toNat_start_span h, toNat_stop_span h]

/-- Only past the end are tiles empty, and then all that follow are. -/
theorem edge_eq_stop_of_isEmpty (h : i < 2 ^ 64) (empty : (s.span i).isEmpty = true) : s.edge i = s.stop.toNat := by
  have closed := of_decide_eq_true empty
  have pos := s.tileSize_pos
  have := s.edge_le_stop i
  rw [UInt64.le_iff_toNat_le, toNat_start_span h, toNat_stop_span h, edge_succ] at closed
  omega

end Tiles

theorem flatMap_tilesFrom (s : Schedule) {i : Nat} (h : i ≤ s.workers.1.toNat) :
    (s.tilesFrom i).flatMap (·.span.indices) = Index.between (s.edge i) (s.edge s.workers.1.toNat) := by
  have bound := s.workers.1.toNat_lt
  fun_induction tilesFrom s i with
  | case1 i available empty =>
    -- past the end all further edges are the stop
    have last := edge_eq_stop_of_isEmpty (by omega) empty
    have := s.edge_le_stop s.workers.1.toNat
    rw [List.flatMap_nil, Index.between_of_le (by omega)]
  | case2 i available nonempty ih =>
    rw [List.flatMap_cons, ih (by omega), indices_span (by omega)]
    exact Index.between_append (s.edge_le_edge (by omega)) (s.edge_le_edge (by omega))
  | case3 i none =>
    obtain rfl : i = s.workers.1.toNat := by omega
    rw [List.flatMap_nil, Index.between_of_le (Nat.le_refl _)]

/-- A round hands out the indices from the cursor up to the next cursor, in order. -/
theorem flatMap_round (s : Schedule) :
    s.round.flatMap (·.span.indices) = Index.between s.cursor.toNat s.advance.cursor.toNat := by
  rw [round, s.flatMap_tilesFrom (Nat.zero_le _), s.edge_zero, s.toNat_cursor_advance_eq_edge]

theorem length_tilesFrom_le (s : Schedule) (i : Nat) : (s.tilesFrom i).length ≤ s.workers.1.toNat - i := by
  fun_induction tilesFrom s i with
  | case1 => exact Nat.zero_le _
  | case2 i available nonempty ih =>
    rw [List.length_cons]
    omega
  | case3 => exact Nat.zero_le _

theorem length_round_le (s : Schedule) : s.round.length ≤ s.workers.1.toNat := s.length_tilesFrom_le 0

theorem exists_of_mem_tilesFrom (s : Schedule) {i : Nat} {tile : Tile} (h : tile ∈ s.tilesFrom i) :
    ∃ k < s.workers.1.toNat, tile.span = s.span k := by
  fun_induction tilesFrom s i with
  | case1 => exact absurd h List.not_mem_nil
  | case2 i available nonempty ih =>
    rcases List.mem_cons.1 h with rfl | later
    · exact ⟨i, available, rfl⟩
    · exact ih later
  | case3 => exact absurd h List.not_mem_nil

/-- Tiles lie in the space that is searched. -/
theorem stop_le_of_mem_round (s : Schedule) {tile : Tile} (h : tile ∈ s.round) : tile.span.stop ≤ s.stop := by
  obtain ⟨k, low, same⟩ := s.exists_of_mem_tilesFrom h
  have bound := s.workers.1.toNat_lt
  rw [same, UInt64.le_iff_toNat_le, toNat_stop_span (by omega)]
  exact s.edge_le_stop _

/-- Only the end of the space makes a tile shorter. -/
theorem size_le_of_mem_round (s : Schedule) {tile : Tile} (h : tile ∈ s.round) :
    tile.span.size ≤ s.tileSize.1.toNat := by
  obtain ⟨k, low, same⟩ := s.exists_of_mem_tilesFrom h
  have bound := s.workers.1.toNat_lt
  rw [same, Span.size, toNat_start_span (by omega), toNat_stop_span (by omega), edge_succ]
  omega

/-! ## Rounds that are left -/

theorem stride_pos (s : Schedule) : 0 < s.stride := Nat.mul_pos s.tileSize_pos s.workers_pos

theorem toNat_cursor_advanceBy (k : Nat) (s : Schedule) :
    (advanceBy k s).cursor.toNat = min (s.cursor.toNat + k * s.stride) s.stop.toNat := by
  induction k generalizing s with
  | zero =>
    have := s.toNat_cursor_le_stop
    rw [advanceBy]
    omega
  | succ k ih =>
    have same : s.advance.stride = s.stride := rfl
    have stop : s.advance.stop = s.stop := rfl
    rw [advanceBy, ih, same, stop, s.toNat_cursor_advance, Nat.succ_mul]
    omega

@[simp]
theorem stop_advanceBy (k : Nat) (s : Schedule) : (advanceBy k s).stop = s.stop := by
  induction k generalizing s with
  | zero => rfl
  | succ k ih => exact ih s.advance

@[simp]
theorem tileSize_advanceBy (k : Nat) (s : Schedule) : (advanceBy k s).tileSize = s.tileSize := by
  induction k generalizing s with
  | zero => rfl
  | succ k ih => exact ih s.advance

theorem isComplete_iff (s : Schedule) : s.isComplete = true ↔ s.cursor.toNat = s.stop.toNat := by
  rw [isComplete, beq_iff_eq, UInt64.toNat_inj]

/-- At the start there are indices to hand out. -/
theorem not_isComplete_start (n : Nat) (requested workers : Count) :
    ¬ (start n requested workers).isComplete = true := by
  have pos := UInt64.lt_iff_toNat_lt.1 (Index.limit_pos n)
  rw [isComplete_iff]
  exact Nat.ne_of_lt pos

/-- The schedule is complete when the rounds that are left were run, and not before. -/
theorem isComplete_advanceBy_iff (s : Schedule) (k : Nat) :
    (advanceBy k s).isComplete = true ↔ s.roundsLeft ≤ k := by
  have inside := s.toNat_cursor_le_stop
  have pos := s.stride_pos
  -- the number of rounds is rounded up
  have enough : s.roundsLeft ≤ k ↔ s.stop.toNat - s.cursor.toNat ≤ k * s.stride := by
    rw [roundsLeft, ← Nat.lt_succ_iff, Nat.div_lt_iff_lt_mul pos, Nat.succ_mul]
    omega
  rw [enough, isComplete_iff, toNat_cursor_advanceBy, stop_advanceBy]
  omega

/-- After the rounds that are left every index is handed out. -/
theorem isComplete_advanceBy_roundsLeft (s : Schedule) : (advanceBy s.roundsLeft s).isComplete = true :=
  (s.isComplete_advanceBy_iff _).2 (Nat.le_refl _)

theorem roundsLeft_eq_zero_iff (s : Schedule) : s.roundsLeft = 0 ↔ s.isComplete = true := by
  rw [← Nat.le_zero, ← isComplete_advanceBy_iff, advanceBy]

/-- Of the rounds that are left, a round takes one. -/
theorem roundsLeft_advance {s : Schedule} (incomplete : ¬ s.isComplete = true) :
    s.roundsLeft = s.advance.roundsLeft + 1 := by
  have next (k : Nat) : s.roundsLeft ≤ k + 1 ↔ s.advance.roundsLeft ≤ k := by
    rw [← isComplete_advanceBy_iff, ← isComplete_advanceBy_iff, advanceBy]
  have some : s.roundsLeft ≠ 0 := mt s.roundsLeft_eq_zero_iff.1 incomplete
  have most := (next s.advance.roundsLeft).2 (Nat.le_refl _)
  have least := (next (s.roundsLeft - 1)).1 (by omega)
  omega

end BinaryQuadratic.Schedule
