import BinaryQuadratic.Span

/-!
# Schedules

The indices below `2 ^ n` are cut into tiles of one size and handed out in rounds. In a round the workers take
consecutive tiles from the cursor on, the worker with number `i` the tile that starts `i` tiles after the cursor; then
the cursor moves past all of them. Tiles are clipped at the end of the space, and workers whose tile would be empty
take none. Which indices a round holds depends on the size of the space, the tile size and the number of workers only,
so every way of running the rounds scans the same spans.
-/

namespace BinaryQuadratic

/-- Part of a round: the span that one worker scans. -/
structure Tile where
  worker : Nat
  span : Span
  deriving DecidableEq

/-- A cursor over the indices below `stop`, which hands out tiles. -/
structure Schedule where
  tileSize : Count
  workers : Count
  cursor : Index
  stop : Index
  cursor_le_stop : cursor ≤ stop

namespace Schedule

/-- Tiles hold 1024 indices unless a size is asked for. -/
def defaultTileSize : Count := ⟨1024, by decide⟩

/-- Schedule for `n` variables, `n` below 64. A tile is never larger than the space. -/
def start (n : Nat) (requested workers : Count) : Schedule where
  tileSize := ⟨min requested.1 (Index.limit n), by
    have small := UInt64.lt_iff_toNat_lt.1 requested.2
    have space := UInt64.lt_iff_toNat_lt.1 (Index.limit_pos n)
    rw [UInt64.lt_iff_toNat_lt, Index.toNat_min]
    omega⟩
  workers := workers
  cursor := 0
  stop := Index.limit n
  cursor_le_stop := by rw [UInt64.le_iff_toNat_le]; exact Nat.zero_le _

/-- Whether every index was handed out. -/
def isComplete (s : Schedule) : Bool := s.cursor == s.stop

/-- Span of the tile that starts `i` tiles after the cursor. -/
def span (s : Schedule) (i : Nat) : Span :=
  let start := min (s.cursor.addSat (Index.mulSat s.tileSize i.toUInt64)) s.stop
  ⟨start, min (start.addSat s.tileSize) s.stop⟩

/-- Tiles of the workers from number `i` on, up to the first one that would be empty. -/
def tilesFrom (s : Schedule) (i : Nat) : List Tile :=
  if i < s.workers.1.toNat then
    if (s.span i).isEmpty then [] else ⟨i, s.span i⟩ :: s.tilesFrom (i + 1)
  else []
termination_by s.workers.1.toNat - i

/-- Tiles of the current round, in the order of the workers. -/
def round (s : Schedule) : List Tile := s.tilesFrom 0

/-- The schedule after the current round. -/
def advance (s : Schedule) : Schedule :=
  { s with
    cursor := min (s.cursor.addSat (Index.mulSat s.tileSize s.workers)) s.stop
    cursor_le_stop := by
      rw [UInt64.le_iff_toNat_le, Index.toNat_min]
      exact Nat.min_le_right _ _ }

/-- The schedule with its cursor back at zero. -/
def reset (s : Schedule) : Schedule :=
  { s with
    cursor := 0
    cursor_le_stop := by rw [UInt64.le_iff_toNat_le]; exact Nat.zero_le _ }

/-- Number of indices that a full round takes. -/
def stride (s : Schedule) : Nat := s.tileSize.1.toNat * s.workers.1.toNat

/-- Saturating steps of the cursor end where unbounded ones would, since the space ends before the largest word. -/
theorem toNat_cursor_advance (s : Schedule) :
    s.advance.cursor.toNat = min (s.cursor.toNat + s.stride) s.stop.toNat := by
  have bound := s.stop.toNat_lt
  simp only [advance, stride, Index.toNat_min, Index.toNat_addSat, Index.toNat_mulSat]
  omega

/-- Number of rounds until every index is handed out. -/
def roundsLeft (s : Schedule) : Nat :=
  (s.stop.toNat - s.cursor.toNat + (s.stride - 1)) / s.stride

/-- The schedule after `k` rounds. -/
def advanceBy : Nat → Schedule → Schedule
  | 0, s => s
  | k + 1, s => advanceBy k s.advance

/-- Tiles of the next `k` rounds, in the order they are handed out. -/
def tiles : Nat → Schedule → List Tile
  | 0, _ => []
  | k + 1, s => s.round ++ tiles k s.advance

end Schedule

end BinaryQuadratic
