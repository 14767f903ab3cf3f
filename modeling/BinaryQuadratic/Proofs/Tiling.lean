import Mathlib.Data.List.Chain
import BinaryQuadratic.Proofs.Schedule

/-!
# Tilings

Run until it is complete, a schedule hands out a tiling of its space: spans that follow one another from zero to the
stop, all of one size but for the last. What carries the proof is that the tiles of a round are cut off one after
another from the cursor to the next cursor (`Schedule.cut_round`), so that rounds can be put end to end.

The words of a schedule saturate where they would overflow. A schedule of plain numbers, which has no need to, takes
the same steps and hands out the same tiles.
-/

namespace BinaryQuadratic

/-- The spans follow one another from zero to the stop, and all of them hold `size` indices, but for the last, which may
hold fewer. -/
structure Tiling (size stop : Nat) (spans : List Span) : Prop where
  nonempty : ∀ span ∈ spans, span.start.toNat < span.stop.toNat
  consecutive : spans.IsChain fun span next => span.stop = next.start
  first : spans.head?.map (·.start.toNat) = some 0
  last : spans.getLast?.map (·.stop.toNat) = some stop
  full : ∀ span ∈ spans.dropLast, span.size = size
  size_le : ∀ span ∈ spans, span.size ≤ size

/-! ## Cutting off tiles -/

/-- The spans are cut off one after another from `low` on, `size` indices each and the last of them clipped at `stop`;
what is left starts at the second number. -/
inductive Cut (size stop : Nat) : Nat → List Span → Nat → Prop where
  | nil (low : Nat) : Cut size stop low [] low
  | cons {span : Span} {rest : List Span} {high : Nat} (room : span.start.toNat < stop)
      (clipped : span.stop.toNat = min (span.start.toNat + size) stop) (later : Cut size stop span.stop.toNat rest high) :
      Cut size stop span.start.toNat (span :: rest) high

namespace Cut

variable {size stop low middle high : Nat} {span : Span} {spans more : List Span}

theorem append (h : Cut size stop low spans middle) (h' : Cut size stop middle more high) :
    Cut size stop low (spans ++ more) high := by
  induction h with
  | nil low => exact h'
  | cons room clipped later ih => exact .cons room clipped (ih h')

theorem of_cons (h : Cut size stop low (span :: spans) high) : low = span.start.toNat := by
  cases h with
  | cons room clipped later => rfl

theorem lt_stop_of_cons (h : Cut size stop low (span :: spans) high) : low < stop := by
  cases h with
  | cons room clipped later => exact room

theorem eq_of_nil (h : Cut size stop low [] high) : low = high := by
  cases h with
  | nil low => rfl

theorem nonempty (h : Cut size stop low spans high) (pos : 0 < size) :
    ∀ span ∈ spans, span.start.toNat < span.stop.toNat := by
  induction h with
  | nil low => simp
  | cons room clipped later ih =>
    rw [List.forall_mem_cons]
    exact ⟨by omega, ih⟩

theorem size_le (h : Cut size stop low spans high) : ∀ span ∈ spans, span.size ≤ size := by
  induction h with
  | nil low => simp
  | cons room clipped later ih =>
    rw [List.forall_mem_cons, Span.size]
    exact ⟨by omega, ih⟩

theorem consecutive (h : Cut size stop low spans high) : spans.IsChain fun span next => span.stop = next.start := by
  induction h with
  | nil low => exact .nil
  | @cons span rest high room clipped later ih =>
    cases rest with
    | nil => exact .singleton span
    | cons next rest => exact .cons_cons (UInt64.toNat_inj.1 later.of_cons) ih

/-- A span that another one follows is not clipped. -/
theorem full (h : Cut size stop low spans high) : ∀ span ∈ spans.dropLast, span.size = size := by
  induction h with
  | nil low => simp
  | @cons span rest high room clipped later ih =>
    cases rest with
    | nil => simp
    | cons next rest =>
      have unclipped := later.lt_stop_of_cons
      rw [List.dropLast_cons_cons, List.forall_mem_cons, Span.size]
      exact ⟨by omega, ih⟩

theorem last (h : Cut size stop low spans high) (spans_ne : spans ≠ []) :
    spans.getLast?.map (·.stop.toNat) = some high := by
  induction h with
  | nil low => exact absurd rfl spans_ne
  | @cons span rest high room clipped later ih =>
    cases rest with
    | nil => simp [later.eq_of_nil]
    | cons next rest =>
      rw [List.getLast?_cons_cons]
      exact ih (List.cons_ne_nil _ _)

/-- Cut off all the way, the spans tile the space. -/
theorem tiling (h : Cut size stop 0 spans stop) (pos : 0 < size) (space : 0 < stop) : Tiling size stop spans where
  nonempty := h.nonempty pos
  consecutive := h.consecutive
  first := by
    cases spans with
    | nil => exact absurd h.eq_of_nil (by omega)
    | cons span rest => simp [← h.of_cons]
  last := by
    refine h.last fun none => ?_
    subst none
    exact absurd h.eq_of_nil (by omega)
  full := h.full
  size_le := h.size_le

end Cut

/-! ## Numbers without a bound -/

/-- A schedule of numbers that have no bound. -/
structure Unbounded where
  tileSize : Nat
  workers : Nat
  cursor : Nat
  stop : Nat

namespace Unbounded

/-- Where the tile that starts `i` tiles after the cursor starts and stops. -/
def span (u : Unbounded) (i : Nat) : Nat × Nat :=
  let start := min (u.cursor + u.tileSize * i) u.stop
  (start, min (start + u.tileSize) u.stop)

/-- Workers of a round with where their tiles start and stop, up to the first tile that would be empty. -/
def round (u : Unbounded) : List (Nat × Nat × Nat) :=
  ((List.range u.workers).map fun i => (i, u.span i)).takeWhile fun tile => tile.2.1 < tile.2.2

def advance (u : Unbounded) : Unbounded := { u with cursor := min (u.cursor + u.tileSize * u.workers) u.stop }

end Unbounded

/-- The tile in plain numbers. -/
def Tile.unbounded (tile : Tile) : Nat × Nat × Nat := (tile.worker, tile.span.start.toNat, tile.span.stop.toNat)

namespace Schedule

/-- The schedule in plain numbers. -/
def unbounded (s : Schedule) : Unbounded where
  tileSize := s.tileSize.1.toNat
  workers := s.workers.1.toNat
  cursor := s.cursor.toNat
  stop := s.stop.toNat

theorem cursor_lt_stop_of_advance (s : Schedule) (incomplete : ¬ s.advance.isComplete = true) :
    s.cursor.toNat < s.advance.cursor.toNat ∧ s.advance.cursor.toNat < s.stop.toNat := by
  have moved := s.toNat_cursor_advance
  have pos : 0 < s.stride := Nat.mul_pos s.tileSize_pos s.workers_pos
  rw [isComplete_iff] at incomplete
  change s.advance.cursor.toNat ≠ s.stop.toNat at incomplete
  omega

/-- The rounds of a run: the current one, and further ones until moving on completes the schedule. -/
def rounds (s : Schedule) : List (List Tile) :=
  if s.advance.isComplete then [s.round] else s.round :: s.advance.rounds
termination_by s.stop.toNat - s.cursor.toNat
decreasing_by
  have bounds := s.cursor_lt_stop_of_advance ‹_›
  change s.stop.toNat - s.advance.cursor.toNat < _
  omega

/-! ## One round -/

section Round

variable (s : Schedule)

theorem cut_tilesFrom {i : Nat} (h : i ≤ s.workers.1.toNat) :
    Cut s.tileSize.1.toNat s.stop.toNat (s.edge i) ((s.tilesFrom i).map (·.span)) (s.edge s.workers.1.toNat) := by
  have bound := s.workers.1.toNat_lt
  fun_induction tilesFrom s i with
  | case1 i available empty =>
    -- past the end all further edges are the stop
    have last := edge_eq_stop_of_isEmpty (by omega) empty
    have := s.edge_le_stop s.workers.1.toNat
    have := s.edge_le_edge h
    rw [List.map_nil, show s.edge i = s.edge s.workers.1.toNat by omega]
    exact .nil _
  | case2 i available nonempty ih =>
    have start := toNat_start_span (s := s) (i := i) (by omega)
    have stop := toNat_stop_span (s := s) (i := i) (by omega)
    have later := ih (by omega)
    rw [← stop] at later
    rw [List.map_cons, ← start]
    refine .cons ?_ (by rw [start, stop, edge_succ]) later
    have some : (s.span i).start.toNat < (s.span i).stop.toNat := by
      rw [Span.isEmpty, decide_eq_true_eq, UInt64.le_iff_toNat_le] at nonempty
      omega
    have := s.edge_le_stop (i + 1)
    omega
  | case3 i none =>
    obtain rfl : i = s.workers.1.toNat := by omega
    exact .nil _

/-- The tiles of a round are cut off from the cursor up to the next cursor. -/
theorem cut_round :
    Cut s.tileSize.1.toNat s.stop.toNat s.cursor.toNat (s.round.map (·.span)) s.advance.cursor.toNat := by
  have cut := s.cut_tilesFrom (Nat.zero_le _)
  rwa [s.edge_zero, ← s.toNat_cursor_advance_eq_edge] at cut

theorem workers_tilesFrom (i : Nat) : (s.tilesFrom i).map (·.worker) = List.range' i (s.tilesFrom i).length := by
  fun_induction tilesFrom s i with
  | case1 => rfl
  | case2 i available nonempty ih => rw [List.map_cons, ih, List.length_cons, List.range'_succ]
  | case3 => rfl

/-- The workers with the lowest numbers take part in a round. -/
theorem workers_round : s.round.map (·.worker) = List.range s.round.length := by
  rw [round, workers_tilesFrom, List.range_eq_range']

theorem round_eq_nil_iff : s.round = [] ↔ s.isComplete = true := by
  have cut := s.cut_round
  have inside := s.toNat_cursor_le_stop
  have moved := s.toNat_cursor_advance
  have pos := s.stride_pos
  rw [isComplete_iff]
  constructor
  · intro none
    rw [none] at cut
    have still := cut.eq_of_nil
    omega
  · intro done
    cases tiles : s.round with
    | nil => rfl
    | cons tile rest =>
      rw [tiles] at cut
      exact absurd cut.lt_stop_of_cons (by omega)

theorem unbounded_tilesFrom (i : Nat) :
    (s.tilesFrom i).map Tile.unbounded =
      ((List.range' i (s.workers.1.toNat - i)).map fun i => (i, s.unbounded.span i)).takeWhile
        fun tile => tile.2.1 < tile.2.2 := by
  have bound := s.workers.1.toNat_lt
  -- the same tile in words and in plain numbers
  have same (i : Nat) (low : i < 2 ^ 64) :
      s.unbounded.span i = ((s.span i).start.toNat, (s.span i).stop.toNat) := by
    rw [toNat_start_span low, toNat_stop_span low, edge_succ]
    rfl
  fun_induction tilesFrom s i with
  | case1 i available empty =>
    rw [Span.isEmpty, decide_eq_true_eq, UInt64.le_iff_toNat_le] at empty
    rw [show s.workers.1.toNat - i = (s.workers.1.toNat - (i + 1)) + 1 by omega, List.range'_succ, List.map_cons,
      same i (by omega), List.takeWhile_cons_of_neg (by simpa using empty), List.map_nil]
  | case2 i available nonempty ih =>
    rw [Span.isEmpty, decide_eq_true_eq, UInt64.le_iff_toNat_le] at nonempty
    rw [show s.workers.1.toNat - i = (s.workers.1.toNat - (i + 1)) + 1 by omega, List.range'_succ, List.map_cons,
      List.map_cons, same i (by omega), List.takeWhile_cons_of_pos (by simpa using nonempty), ih]
    rfl
  | case3 i none =>
    rw [show s.workers.1.toNat - i = 0 by omega]
    rfl

/-- Words hand out the tiles that plain numbers do. -/
theorem unbounded_round : s.round.map Tile.unbounded = s.unbounded.round := by
  rw [round, unbounded_tilesFrom, Nat.sub_zero, ← List.range_eq_range']
  rfl

theorem unbounded_advance : s.advance.unbounded = s.unbounded.advance := by
  have moved := s.toNat_cursor_advance
  simp only [unbounded, Unbounded.advance, moved, stride]
  rfl

theorem unbounded_advanceBy (k : Nat) : (advanceBy k s).unbounded = Unbounded.advance^[k] s.unbounded := by
  induction k generalizing s with
  | zero => rfl
  | succ k ih => rw [advanceBy, ih, unbounded_advance, Function.iterate_succ_apply]

end Round

/-! ## All rounds -/

section Run

variable (s : Schedule)

theorem cut_rounds :
    Cut s.tileSize.1.toNat s.stop.toNat s.cursor.toNat (s.rounds.flatten.map (·.span)) s.stop.toNat := by
  fun_induction rounds s with
  | case1 s done =>
    have cut := s.cut_round
    rw [(isComplete_iff _).1 done] at cut
    rw [List.flatten_singleton]
    exact cut
  | case2 s incomplete ih =>
    rw [List.flatten_cons, List.map_append]
    exact s.cut_round.append ih

theorem workers_advanceBy (k : Nat) : (advanceBy k s).workers = s.workers := by
  induction k generalizing s with
  | zero => rfl
  | succ k ih => exact ih s.advance

/-- Moving on changes nothing when there is no index left. -/
theorem advance_eq_self (done : s.isComplete = true) : s.advance = s := by
  have moved := s.toNat_cursor_advance
  rw [isComplete_iff] at done
  have still : s.advance.cursor = s.cursor := by
    rw [← UInt64.toNat_inj]
    omega
  cases s
  simp only [advance, mk.injEq, true_and, and_true]
  exact still

/-- A run takes the rounds that are left. -/
theorem rounds_eq (incomplete : ¬ s.isComplete = true) :
    s.rounds = (List.range s.roundsLeft).map fun k => (advanceBy k s).round := by
  fun_induction rounds s with
  | case1 s done =>
    rw [roundsLeft_advance incomplete, s.advance.roundsLeft_eq_zero_iff.2 done]
    rfl
  | case2 s unfinished ih =>
    rw [roundsLeft_advance incomplete, ih unfinished, List.range_succ_eq_map, List.map_cons, List.map_map]
    rfl

end Run

section Start

variable {n : Nat} (requested workers : Count)

theorem toNat_tileSize_start (small : n < 64) :
    (start n requested workers).tileSize.1.toNat = min requested.1.toNat (2 ^ n) := by
  rw [start, Index.toNat_min, Index.toNat_limit small]

theorem unbounded_start (small : n < 64) :
    (start n requested workers).unbounded = ⟨min requested.1.toNat (2 ^ n), workers.1.toNat, 0, 2 ^ n⟩ := by
  rw [unbounded, toNat_tileSize_start _ _ small]
  exact congrArg (Unbounded.mk _ _ _) (Index.toNat_limit small)

end Start

/-- **Every index once.** Run from its start, a schedule for any number of variables below 64, any size of tiles and any
number of workers hands out a tiling of all indices, in as many rounds as it takes to get there, rounded up. In every
round the workers with the lowest numbers have a tile each, and none has one only when the schedule is complete; then
moving on changes nothing. The tiles are those that numbers without a bound would give. -/
theorem rounds_tile_space {n : Nat} (small : n < 64) (requested workers : Count) (s : Schedule)
    (started : start n requested workers = s) (size stride : Nat) (sized : min requested.1.toNat (2 ^ n) = size)
    (full : size * workers.1.toNat = stride) :
    Tiling size (2 ^ n) (s.rounds.flatten.map (·.span)) ∧
    s.rounds = (List.range ((2 ^ n + (stride - 1)) / stride)).map (fun k => (advanceBy k s).round) ∧
    ∀ k : Nat, (advanceBy k s).cursor.toNat = min (2 ^ n) (k * stride) ∧
      (advanceBy k s).round.map (·.worker) = List.range (advanceBy k s).round.length ∧
      (advanceBy k s).round.length ≤ workers.1.toNat ∧
      ((advanceBy k s).round = [] ↔ (advanceBy k s).isComplete = true) ∧
      ((advanceBy k s).isComplete = true ↔ (2 ^ n + (stride - 1)) / stride ≤ k) ∧
      ((advanceBy k s).isComplete = true → (advanceBy k s).advance = advanceBy k s) ∧
      (advanceBy k s).round.map Tile.unbounded =
        (Unbounded.advance^[k] ⟨size, workers.1.toNat, 0, 2 ^ n⟩).round := by
  have stop : s.stop.toNat = 2 ^ n := by rw [← started]; exact Index.toNat_limit small
  have cursor : s.cursor.toNat = 0 := by rw [← started]; rfl
  have tile : s.tileSize.1.toNat = size := by rw [← started, toNat_tileSize_start _ _ small, sized]
  have count : s.workers = workers := by rw [← started]; rfl
  have stride_eq : s.stride = stride := by rw [Schedule.stride, tile, count, full]
  have left : s.roundsLeft = (2 ^ n + (stride - 1)) / stride := by
    rw [roundsLeft, stop, cursor, stride_eq, Nat.sub_zero]
  have space : 0 < 2 ^ n := Nat.two_pow_pos n
  have incomplete : ¬ s.isComplete = true := by
    rw [isComplete_iff]
    omega
  have cut := s.cut_rounds
  rw [tile, cursor, stop] at cut
  refine ⟨cut.tiling (tile ▸ s.tileSize_pos) space, left ▸ s.rounds_eq incomplete, fun k => ⟨?_, ?_, ?_, ?_, ?_, ?_, ?_⟩⟩
  · rw [toNat_cursor_advanceBy, stop, cursor, stride_eq, Nat.zero_add, Nat.min_comm]
  · exact (advanceBy k s).workers_round
  · have most := (advanceBy k s).length_round_le
    rwa [workers_advanceBy, count] at most
  · exact (advanceBy k s).round_eq_nil_iff
  · rw [isComplete_advanceBy_iff, left]
  · exact (advanceBy k s).advance_eq_self
  · rw [unbounded_round, unbounded_advanceBy, ← started, unbounded_start _ _ small, sized]

theorem vast_tileSize_pos : (0 : UInt64) < 0x4000000000000000 := by decide

theorem maximum_pos : 0 < Index.maximum := by decide

/-- As many workers as a word can count, so that the size of a round passes the largest word. -/
def vast : Schedule := start 63 ⟨0x4000000000000000, vast_tileSize_pos⟩ ⟨Index.maximum, maximum_pos⟩

/-- One round tiles the space. -/
theorem rounds_tile_space_vast :
    63 < 64 ∧ Tiling (2 ^ 62) (2 ^ 63) (vast.rounds.flatten.map (·.span)) ∧ vast.rounds.length = 1 ∧
      vast.advance.advance = vast.advance := by
  obtain ⟨tiling, rounds, round⟩ := rounds_tile_space (by decide) ⟨0x4000000000000000, vast_tileSize_pos⟩
    ⟨Index.maximum, maximum_pos⟩ vast rfl (2 ^ 62) (2 ^ 62 * (2 ^ 64 - 1)) (by decide) rfl
  have one : (2 ^ 63 + (2 ^ 62 * (2 ^ 64 - 1) - 1)) / (2 ^ 62 * (2 ^ 64 - 1)) = 1 := by decide
  rw [one] at rounds round
  obtain ⟨-, -, -, -, complete, still, -⟩ := round 1
  refine ⟨by decide, tiling, ?_, still (complete.2 (Nat.le_refl _))⟩
  rw [rounds, List.length_map, List.length_range]

end Schedule

end BinaryQuadratic
