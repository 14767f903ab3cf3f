import BinaryQuadratic.Proofs.Device.Books
import BinaryQuadratic.Proofs.Device.FaultyScan
import BinaryQuadratic.Proofs.Format.Precision
import BinaryQuadratic.Proofs.Tiling

/-!
# Room for batches in a word

A worker on a device moves from batch to batch with a plain sum of words, which wraps. With fewer than 64 variables
neither the end of a span nor a batch is longer than half of all words, so the sum never reaches the last word: the loop
comes to its end, and it goes through the batches that a loop which saturates goes through (`Span.passes_iff`).
-/

namespace BinaryQuadratic

open Step

namespace Span

variable {count : Count} {stop : Index} {span b : Span} {bs : List Span} {n : Nat}

/-! ## The plain loop -/

/-- From `start` on, a loop that adds `count` to the start of a batch goes through these batches before it ends at the
stop. The sum is one of words, and wraps. -/
inductive Passes (count : Count) (stop : Index) : Index → List Span → Prop
  | done {start : Index} (past : ¬ start < stop) : Passes count stop start []
  | batch {start : Index} {rest : List Span} (room : start < stop)
      (later : Passes count stop (min stop (start + count.1)) rest) :
      Passes count stop start (⟨start, min stop (start + count.1)⟩ :: rest)

/-- There is room for one more batch between the stop and the end of all words. -/
def Roomy (count : Count) (stop : Index) : Prop := stop.toNat + count.1.toNat ≤ 2 ^ 64

theorem toNat_add_of_roomy (roomy : Roomy count stop) {start : Index} (room : start < stop) :
    (start + count.1).toNat = start.toNat + count.1.toNat ∧ start.toNat + count.1.toNat < 2 ^ 64 := by
  rw [UInt64.lt_iff_toNat_lt] at room
  unfold Roomy at roomy
  have below : start.toNat + count.1.toNat < 2 ^ 64 := by omega
  exact ⟨by rw [UInt64.toNat_add, Nat.mod_eq_of_lt below], below⟩

/-- With room for it a sum that saturates is the plain one. -/
theorem min_addSat_of_roomy (roomy : Roomy count stop) {start : Index} (room : start < stop) :
    min (start.addSat count) stop = min stop (start + count.1) := by
  obtain ⟨sum, below⟩ := toNat_add_of_roomy roomy room
  rw [← UInt64.toNat_inj, Index.toNat_min, Index.toNat_min, Index.toNat_addSat, sum]
  omega

theorem passes_batches (roomy : Roomy count span.stop) : Passes count span.stop span.start (span.batches count) := by
  fun_induction batches span count with
  | case1 span nonempty middle ih =>
    have plain : middle = min span.stop (span.start + count.1) := min_addSat_of_roomy roomy nonempty
    rw [plain] at ih ⊢
    exact .batch nonempty (ih roomy)
  | case2 span empty => exact .done empty

/-- A loop goes through no other batches. -/
theorem Passes.unique {start : Index} {bs bs' : List Span} (h : Passes count stop start bs)
    (h' : Passes count stop start bs') : bs = bs' := by
  induction h generalizing bs' with
  | done past =>
    cases h' with
    | done _ => rfl
    | batch room _ => exact absurd room past
  | batch room later ih =>
    cases h' with
    | done past => exact absurd room past
    | batch _ later' => rw [ih later']

theorem passes_iff (roomy : Roomy count span.stop) :
    Passes count span.stop span.start bs ↔ bs = span.batches count := by
  constructor
  · exact fun h => h.unique (passes_batches roomy)
  · rintro rfl
    exact passes_batches roomy

/-! ## Batches -/

/-- The batches follow one another through the span, and none is longer than `count`. -/
structure Batched (count : Nat) (span : Span) (bs : List Span) : Prop where
  none_iff : bs = [] ↔ span.stop ≤ span.start
  length : bs.length = (span.size + (count - 1)) / count
  nonempty : ∀ b ∈ bs, b.start < b.stop
  consecutive : bs.IsChain fun b next => b.stop = next.start
  first : ∀ b ∈ bs.head?, b.start = span.start
  last : ∀ b ∈ bs.getLast?, b.stop = span.stop
  /-- The batches hold the indices of the span and no others, each once. -/
  indices : bs.flatMap Span.indices = span.indices
  size_le : ∀ b ∈ bs, b.size ≤ count

theorem cut_batches (roomy : Roomy count span.stop) :
    Cut count.1.toNat span.stop.toNat span.start.toNat (span.batches count)
      (max span.start.toNat span.stop.toNat) := by
  fun_induction batches span count with
  | case1 span nonempty middle ih =>
    obtain ⟨sum, below⟩ := toNat_add_of_roomy roomy nonempty
    rw [UInt64.lt_iff_toNat_lt] at nonempty
    have reach : middle.toNat = min (span.start.toNat + count.1.toNat) span.stop.toNat := by
      rw [Index.toNat_min, Index.toNat_addSat]
      omega
    have later := ih roomy
    rw [show max middle.toNat span.stop.toNat = max span.start.toNat span.stop.toNat by omega] at later
    exact @Cut.cons _ _ ⟨span.start, middle⟩ _ _ nonempty reach later
  | case2 span empty =>
    rw [UInt64.lt_iff_toNat_lt] at empty
    rw [Nat.max_eq_left (by omega)]
    exact .nil _

/-- As many batches are cut off as it takes to get to the end, rounded up. -/
theorem length_of_cut {size stop low high : Nat} (cut : Cut size stop low bs high) (pos : 0 < size)
    (all : stop ≤ high) : bs.length = (stop - low + (size - 1)) / size := by
  induction cut with
  | nil low => rw [Nat.sub_eq_zero_of_le all, Nat.zero_add, Nat.div_eq_of_lt (by omega), List.length_nil]
  | @cons span rest high room clipped later ih =>
    rw [List.length_cons, ih all, clipped]
    by_cases short : stop ≤ span.start.toNat + size
    · -- one batch is enough for what is left
      have one : (stop - span.start.toNat + (size - 1)) / size = 1 :=
        Nat.div_eq_of_lt_le (by omega) (by omega)
      rw [one, Nat.min_eq_right short, Nat.sub_self, Nat.zero_add, Nat.div_eq_of_lt (by omega)]
    · rw [Nat.min_eq_left (by omega), ← Nat.add_div_right _ pos]
      congr 1
      omega

theorem batched_batches (roomy : Roomy count span.stop) : Batched count.1.toNat span (span.batches count) where
  none_iff := by
    rw [← UInt64.not_lt]
    refine ⟨fun none room => ?_, fun past => batches_of_empty past count⟩
    rw [batches, dif_pos room] at none
    cases none
  length := length_of_cut (cut_batches roomy) (UInt64.lt_iff_toNat_lt.1 count.2) (Nat.le_max_right _ _)
  nonempty b among := (mem_batches among).2.1
  consecutive := (cut_batches roomy).consecutive
  first b among := by
    have cut := cut_batches roomy
    cases cases : span.batches count with
    | nil => rw [cases] at among; cases among
    | cons first rest =>
      rw [cases] at among cut
      cases among
      exact UInt64.toNat_inj.1 cut.of_cons.symm
  last b among := by
    have some : span.batches count ≠ [] := fun none => by rw [none] at among; cases among
    have room : span.start < span.stop := not_not.1 fun past => some (batches_of_empty past count)
    have ends := (cut_batches roomy).last some
    rw [Option.mem_def.1 among, Option.map_some, Option.some_inj,
      Nat.max_eq_right (Nat.le_of_lt (UInt64.lt_iff_toNat_lt.1 room))] at ends
    exact UInt64.toNat_inj.1 ends
  indices := flatMap_batches span count
  size_le := (cut_batches roomy).size_le

/-! ## Words of a batch -/

/-- What is computed of a batch, of `n` variables, is as it would be without a bound on words. -/
structure FitsWords (n : Nat) (count : Count) (b : Span) : Prop where
  /-- The step to the next batch does not wrap. -/
  reach : (b.start + count.1).toNat = b.start.toNat + count.1.toNat
  rows : (b.stop - b.start).toNat = b.size
  /-- The number of entries, if a buffer can have room for them at all. -/
  entries : n * count.1.toNat < 2 ^ 64 →
    (b.size.toUInt64 * n.toUInt64).toNat = b.size * n ∧ b.size * n ≤ n * count.1.toNat
  /-- The index in any row. -/
  index : ∀ k < b.size, (b.start + k.toUInt64).toNat = b.start.toNat + k ∧ b.start.toNat + k < 2 ^ n

theorem size_lt (b : Span) : b.size < 2 ^ 64 := Nat.lt_of_le_of_lt (Nat.sub_le _ _) b.stop.toNat_lt

theorem fitsWords_of_mem (small : n < 64) (roomy : Roomy count span.stop) (inside : span.stop.toNat ≤ 2 ^ n)
    (among : b ∈ span.batches count) : FitsWords n count b := by
  obtain ⟨-, nonempty, stop, short⟩ := mem_batches among
  have room : b.start < span.stop := UInt64.lt_of_lt_of_le nonempty stop
  rw [UInt64.le_iff_toNat_le] at stop
  have rows := b.size_lt
  constructor
  · exact (toNat_add_of_roomy roomy room).1
  · exact UInt64.toNat_sub_of_le _ _ (UInt64.le_of_lt nonempty)
  · intro fits
    have most : b.size * n ≤ n * count.1.toNat := by
      rw [Nat.mul_comm]
      exact Nat.mul_le_mul_left n short
    refine ⟨?_, most⟩
    rw [UInt64.toNat_mul, UInt64.toNat_ofNat_of_lt' rows, UInt64.toNat_ofNat_of_lt' (Nat.lt_trans small (by decide)),
      Nat.mod_eq_of_lt (Nat.lt_of_le_of_lt most fits)]
  · intro k below
    have bound := b.stop.toNat_lt
    rw [size] at below rows
    have index : b.start.toNat + k < 2 ^ n := by omega
    refine ⟨?_, index⟩
    rw [UInt64.toNat_add, UInt64.toNat_ofNat_of_lt' (Nat.lt_trans below rows), Nat.mod_eq_of_lt (by omega)]

end Span

/-! ## Buffers of a worker -/

namespace Device

variable {R : Type} [Scalar R] {p : Problem R} {w : Worker R} {m : Memory R} {b : Span} {energy : R}

namespace Worker

/-- The commands for a batch: those for its least energy, and the one for the indices at an energy. -/
def batchCommands (w : Worker R) (b : Span) (energy : R) : List (Command R) :=
  w.minimumCommands b ++ [w.selectCommand b energy]

omit [Scalar R] in
/-- A buffer that a worker's command needs is there, and long enough. -/
theorem Issues.exists_shape {command : Command R} (issues : w.Issues m command) {operand : Nat × Shape}
    (needs : operand ∈ command.operands) : ∃ shape, m.shape? operand.1 = some shape ∧ shape.Serves operand.2 := by
  obtain ⟨buffer, held⟩ := Option.isSome_iff_exists.1 (issues.live operand needs)
  have same : m.shape? operand.1 = some buffer.shape := by rw [Memory.shape?, held]; rfl
  exact ⟨buffer.shape, same, (issues.proper.suits operand needs).serves same⟩

omit [Scalar R] in
theorem issues_batchCommands (own : w.Owns p m) (ordered : b.start ≤ b.stop) (short : b.size ≤ w.batch.1.toNat) :
    ∀ command ∈ w.batchCommands b energy, w.Issues m command := by
  rw [batchCommands, List.forall_mem_append, List.forall_mem_singleton]
  exact ⟨issues_minimumCommands own ordered short, issues_selectCommand own short energy⟩

omit [Scalar R] in
/-- What the commands for a batch need is counted in words, if the entries of the batch are. -/
theorem length_operands_lt (small : w.n < 64) (entries : b.size * w.n < 2 ^ 64) :
    ∀ command ∈ w.batchCommands b energy, ∀ operand ∈ command.operands, operand.2.length < 2 ^ 64 := by
  have rows := b.size_lt
  have weights : w.n * w.n < 2 ^ 64 := Nat.lt_of_le_of_lt (Nat.mul_le_mul_right w.n (Nat.le_of_lt small)) (by omega)
  have one : 1 < 2 ^ 64 := by decide
  simp only [batchCommands, minimumCommands, selectCommand, List.cons_append, List.nil_append, List.forall_mem_cons,
    List.not_mem_nil, false_implies, implies_true, and_true, Command.operands, Kernel.operands]
  exact ⟨entries, ⟨weights, entries, rows⟩, ⟨rows, one⟩, rows, rows, one⟩

end Worker

/-- On a machine, a worker for batches of this size scans the span within its buffers. -/
structure ScansWithin (p : Problem R) (count : Count) (span : Span) : Prop where
  /-- A worker that was created has its buffers. -/
  created {g g' : Guarded (Machine R)} {w : Worker R} : g.Ready → Worker.create p.weights count.1 g = .ok w g' →
    g'.Ready ∧ w.batch = count ∧ w.best = .empty ∧ w.Owns p g'.device.memory
  /-- What a batch needs is there, long enough, and counted in words if the buffers are. -/
  within {w : Worker R} {m : Memory R} : w.Owns p m → w.batch = count → ∀ b ∈ span.batches count,
    ∀ energy, ∀ command ∈ w.batchCommands b energy, ∀ operand ∈ command.operands,
      (∃ shape, m.shape? operand.1 = some shape ∧ shape.Serves operand.2) ∧
      (p.size * count.1.toNat < 2 ^ 64 → operand.2.length < 2 ^ 64)
  /-- The scan comes to its end. -/
  scans {g : Guarded (Machine R)} {w : Worker R} {met : List Index} : g.Ready → w.Owns p g.device.memory →
    w.batch = count → w.best.Holds p.form met → ∃ t, Worker.scan span (g, w) = .ok () t ∧
      t.1.Ready ∧ t.2.batch = count ∧ t.2.Owns p t.1.device.memory ∧ t.2.best.Holds p.form (met ++ span.indices)

theorem scansWithin [Scalar.Ordered R] (p : Problem R) (count : Count) (span : Span) : ScansWithin p count span where
  created ready made := by
    obtain ⟨rfl, rfl⟩ := (Worker.create_spec ready count.1).of_ok made
    rw [Worker.batchFor_eq]
    exact ⟨(ready.grown _).loaded _, rfl, rfl, Worker.owns_equip _ p count .empty⟩
  within {w m} own same b among energy command issued operand needs := by
    obtain ⟨-, nonempty, -, short⟩ := Span.mem_batches among
    rw [← same] at short
    refine ⟨(Worker.issues_batchCommands own (UInt64.le_of_lt nonempty) short command issued).exists_shape needs, ?_⟩
    intro fits
    have entries : b.size * w.n < 2 ^ 64 := by
      rw [← same, ← own.size, Nat.mul_comm] at fits
      exact Nat.lt_of_le_of_lt (Nat.mul_le_mul_right w.n short) fits
    exact Worker.length_operands_lt (own.size ▸ p.size_lt) entries command issued operand needs
  scans ready own same holds := by
    obtain ⟨_, t, done, alike, holds', m', loaded, own', -⟩ := (Worker.scan_spec ready own holds span).exists_ok
    refine ⟨t, done, loaded ▸ ready.loaded m', alike.2.1.trans same, ?_, holds'⟩
    rw [loaded]
    exact own'.of_worker alike

end Device

/-! ## Scans of fewer than 64 variables -/

namespace Span

open Device

/-- **Batches never wrap.** With fewer than 64 variables, and batches and a stop that are not past the number of all
indices, the plain loop comes to its end. It goes through the batches of the span, as the scan of a worker does: as many
as it takes, rounded up, none of them empty or too long, one following the other, which hold the indices of the span and
no others. The step to the next batch never wraps, and neither does the number of rows, the number of entries or the
index of any row. On a machine all that a batch needs of a worker's buffers is there and long enough, and counted in
words if the buffers are; so a worker that was created, and one that scanned before, scans the whole span. -/
theorem batches_never_wrap {R : Type} [Scalar R] [Scalar.Ordered R] {n : Nat} (small : n < 64) {count : Count}
    (short : count.1.toNat ≤ 2 ^ n) {span : Span} (inside : span.stop.toNat ≤ 2 ^ n) :
    (∀ bs, Passes count span.stop span.start bs ↔ bs = span.batches count) ∧
    (∀ (ε σ : Type) (visit : Span → Step ε σ Unit), span.walkBatches count visit = forM (span.batches count) visit) ∧
    Batched count.1.toNat span (span.batches count) ∧
    (∀ b ∈ span.batches count, FitsWords n count b) ∧
    ∀ p : Problem R, p.size = n → ScansWithin p count span := by
  have half : 2 ^ n ≤ 2 ^ 63 := Nat.pow_le_pow_right (by decide) (by omega)
  have roomy : Roomy count span.stop := by
    unfold Roomy
    omega
  refine ⟨fun bs => passes_iff roomy, fun _ _ visit => walkBatches_eq_forM span count visit, batched_batches roomy,
    fun b among => fitsWords_of_mem small roomy inside among, fun p _ => scansWithin p count span⟩

/-- The last index of 63 variables. -/
def lastOfAll : Span := ⟨0x7FFFFFFFFFFFFFFF, 0x8000000000000000⟩

theorem half_pos : (0 : UInt64) < 0x8000000000000000 := by decide

/-- Half of all words: as many as 63 variables have indices. -/
def half : Count := ⟨0x8000000000000000, half_pos⟩

/-- Two variables that each cost one. -/
def twoVariables : Problem Float := ⟨Matrix.identity Float 2, .minimize, rfl, by decide⟩

/-- From the last index a batch of all indices reaches the last word, and no further. On a new machine, a worker for
batches of two scans three indices. -/
theorem batches_never_wrap_lastOfAll :
    63 < 64 ∧ half.1.toNat ≤ 2 ^ 63 ∧ lastOfAll.stop.toNat ≤ 2 ^ 63 ∧
      Passes half lastOfAll.stop lastOfAll.start [lastOfAll] ∧ (lastOfAll.start + half.1).toNat = 2 ^ 64 - 1 ∧
      ∃ (w : Worker Float) (g : Guarded (Machine Float)) (t : Guarded (Machine Float) × Worker Float),
        Worker.create twoVariables.weights 2 (.fresh (.empty none)) = .ok w g ∧
        (⟨1, 4⟩ : Span).batches w.batch = [⟨1, 3⟩, ⟨3, 4⟩] ∧ Worker.scan ⟨1, 4⟩ (g, w) = .ok () t := by
  obtain ⟨passes, -, -, fits, -⟩ := @batches_never_wrap Float _ _ 63 (by decide) half (by decide) lastOfAll (by decide)
  have one : lastOfAll.batches half = [lastOfAll] := batches_of_short (by decide) (by decide)
  obtain ⟨passes', -, -, -, scans⟩ := @batches_never_wrap Float _ _ 2 (by decide) ⟨2, by decide⟩ (by decide) ⟨1, 4⟩ (by decide)
  have ready : (Guarded.fresh (.empty none) : Guarded (Machine Float)).Ready := ⟨rfl, rfl, rfl⟩
  have room : (Guarded.fresh (.empty none) : Guarded (Machine Float)).device.Accommodates twoVariables.size
      (Worker.batchFor 2).1.toNat := ⟨nofun, by decide⟩
  cases made : Worker.create twoVariables.weights 2 (.fresh (.empty none) : Guarded (Machine Float)) with
  | error ending g =>
    obtain ⟨denied, -⟩ := (Worker.create_spec ready 2).of_error made
    exact absurd room denied.crowded
  | ok w g =>
    have scans := scans twoVariables rfl
    obtain ⟨ready', same, unused, own⟩ := scans.created ready made
    have none : w.best.Holds twoVariables.form [] := unused ▸ Incumbent.holds_empty _
    obtain ⟨t, done, -⟩ := scans.scans ready' own same none
    refine ⟨by decide, by decide, by decide, (passes _).2 one.symm, (fits _ (one ▸ List.mem_singleton_self _)).reach,
      w, g, t, rfl, ?_, done⟩
    rw [same]
    exact ((passes' _).1 (.batch (by decide) (.batch (by decide) (.done (by decide))))).symm

end Span

end BinaryQuadratic
