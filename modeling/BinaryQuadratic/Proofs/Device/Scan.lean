import BinaryQuadratic.Proofs.Device.Worker

/-!
# Scanning on a machine

A batch is scanned by kernels on the worker's own buffers. They leave the least form of the batch, and if asked for its
indices, those at that form; whatever an earlier batch left behind in a buffer is past the front that is read. So the
worker takes in the indices of a span with their forms, in order.
-/

namespace BinaryQuadratic.Device.Worker

open Step

variable {R : Type} [Scalar R] {g : Guarded (Machine R)} {p : Problem R} {w : Worker R} {m : Memory R} {batch : Span}

/-! ## Kernels on a worker's buffers -/

/-- The buffers that kernels write are not that of the weights, nor each other. -/
structure Apart (b : WorkerBuffers) : Prop where
  bits_weights : b.bits.id ≠ b.weights.id
  energies_weights : b.energies.id ≠ b.weights.id
  energies_bits : b.energies.id ≠ b.bits.id
  minimum_weights : b.minimum.id ≠ b.weights.id
  minimum_energies : b.minimum.id ≠ b.energies.id
  selected_weights : b.selected.id ≠ b.weights.id
  selected_count : b.selected.id ≠ b.count.id
  count_weights : b.count.id ≠ b.weights.id

theorem apart_of_nodup {b : WorkerBuffers} (h : b.ids.Nodup) : Apart b := by
  simp only [WorkerBuffers.ids, List.nodup_cons, List.mem_cons, List.not_mem_nil, or_false, not_or] at h
  obtain ⟨⟨h₁, h₂, h₃, h₄, h₅⟩, ⟨h₆, -⟩, ⟨h₇, -⟩, -, h₈, -⟩ := h
  exact ⟨Ne.symm h₁, Ne.symm h₂, Ne.symm h₆, Ne.symm h₃, Ne.symm h₇, Ne.symm h₄, h₈, Ne.symm h₅⟩

omit [Scalar R] in
/-- Writing to the front of one of the worker's buffers leaves it the owner, and all other buffers as they are. -/
theorem write_spec (own : w.Owns p m) {target : RealHandle} {old new : List R} (held : m.HasReals target old)
    (room : new.length ≤ old.length) (among : target.id ∈ w.buffers.ids) (other : target.id ≠ w.buffers.weights.id) :
    w.Owns p (m.replace target.id (.reals (Memory.overwrite old new))) ∧
      Memory.SameOutside w.buffers.ids m (m.replace target.id (.reals (Memory.overwrite old new))) ∧
      (m.replace target.id (.reals (Memory.overwrite old new))).HasReals target (Memory.overwrite old new) :=
  ⟨own.replace held (Memory.length_overwrite room) other, Memory.sameOutside_replace held _ among,
    Memory.buffer?_replace_self held _⟩

omit [Scalar R] in
theorem write_indices_spec (own : w.Owns p m) {target : IndexHandle} {old new : List Index}
    (held : m.HasIndices target old) (room : new.length ≤ old.length) (among : target.id ∈ w.buffers.ids)
    (other : target.id ≠ w.buffers.weights.id) :
    w.Owns p (m.replace target.id (.indices (Memory.overwrite old new))) ∧
      Memory.SameOutside w.buffers.ids m (m.replace target.id (.indices (Memory.overwrite old new))) ∧
      (m.replace target.id (.indices (Memory.overwrite old new))).HasIndices target (Memory.overwrite old new) :=
  ⟨own.replace held (Memory.length_overwrite room) other, Memory.sameOutside_replace held _ among,
    Memory.buffer?_replace_self held _⟩

/-- The assignments of a batch are written to the worker's bits. -/
theorem writeAssignments_spec (own : w.Owns p m) (ordered : batch.start ≤ batch.stop)
    (short : batch.size ≤ w.batch.1.toNat) :
    Post (Kernel.run (.writeAssignments w.buffers.bits p.size batch.start batch.stop)) m
      (fun _ m' => w.Owns p m' ∧ Memory.SameOutside w.buffers.ids m m' ∧
        ∃ bits, m'.HasReals w.buffers.bits bits ∧ batch.size * p.size ≤ bits.length ∧
          bits.take (batch.size * p.size) = bitRows p.size batch.size batch.start) fun _ _ => False := by
  obtain ⟨old, held, room⟩ := own.bits
  have rows : (bitRows p.size batch.size batch.start : List R).length = batch.size * p.size := length_bitRows _ _ _
  have enough : batch.size * p.size ≤ old.length := Nat.le_trans (Nat.mul_le_mul_right _ short) room
  obtain ⟨own', outside, written⟩ := write_spec own held (Nat.le_trans (Nat.le_of_eq rows) enough)
    (by simp [WorkerBuffers.ids]) (apart_of_nodup own.nodup).bits_weights
  refine (post_writeAssignments held ordered enough).2 ⟨own', outside, _, written, ?_, ?_⟩
  · rw [Memory.length_overwrite (by omega)]
    exact enough
  · rw [← rows]
    exact Memory.take_overwrite

/-- The forms of a batch are at the front of the worker's energies. -/
structure Computed (w : Worker R) (p : Problem R) (m : Memory R) (batch : Span) : Prop where
  owns : w.Owns p m
  energies : ∃ values, m.HasReals w.buffers.energies values ∧ batch.size ≤ values.length ∧
    values.take batch.size = batch.indices.map p.form

/-- The forms of a batch are written to the worker's energies, from the assignments among its bits. -/
theorem energies_spec (own : w.Owns p m) (short : batch.size ≤ w.batch.1.toNat) {bits : List R}
    (hbits : m.HasReals w.buffers.bits bits) (enough : batch.size * p.size ≤ bits.length)
    (rows : bits.take (batch.size * p.size) = bitRows p.size batch.size batch.start) :
    Post (Kernel.run (.energies w.buffers.weights w.buffers.bits p.size batch.size w.buffers.energies)) m
      (fun _ m' => w.Computed p m' batch ∧ Memory.SameOutside w.buffers.ids m m') fun _ _ => False := by
  obtain ⟨old, held, room⟩ := own.energies
  have apart := apart_of_nodup own.nodup
  have forms : (batch.indices.map p.form).length = batch.size := by rw [List.length_map, Span.length_indices]
  have fits : batch.size ≤ old.length := Nat.le_trans short room
  have computed : (rowsOf p.size batch.size (bits.take (batch.size * p.size))).mapM
      (quadraticForm? (p.weights.data.toList.take (p.size * p.size)) p.size) = some (batch.indices.map p.form) := by
    rw [rows, List.take_of_length_le (Nat.le_of_eq (length_weights p))]
    exact mapM_quadraticForm? p batch
  obtain ⟨own', outside, written⟩ := write_spec own held (Nat.le_trans (Nat.le_of_eq forms) fits)
    (by simp [WorkerBuffers.ids]) apart.energies_weights
  refine (post_energies own.weights hbits held ⟨apart.energies_weights, apart.energies_bits⟩
    (Nat.le_of_eq (length_weights p).symm) enough fits computed).2 ⟨⟨own', _, written, ?_, ?_⟩, outside⟩
  · rw [Memory.length_overwrite (by omega)]
    exact fits
  · conv => lhs; rw [← forms]
    exact Memory.take_overwrite

/-- The least form of a batch is written to the worker's minimum. -/
theorem reduceLeast_spec (h : w.Computed p m batch) :
    Post (Kernel.run (.reduceLeast w.buffers.energies batch.size w.buffers.minimum)) m
      (fun _ m' => w.Computed p m' batch ∧ Memory.SameOutside w.buffers.ids m m' ∧
        ∃ values, m'.HasReals w.buffers.minimum values ∧ 1 ≤ values.length ∧
          values.take 1 = [Scalar.least (batch.indices.map p.form)]) fun _ _ => False := by
  obtain ⟨own, energies, henergies, enough, forms⟩ := h
  obtain ⟨old, held, room⟩ := own.minimum
  have apart := apart_of_nodup own.nodup
  have fits : [Scalar.least (batch.indices.map p.form)].length ≤ old.length := room
  obtain ⟨own', outside, written⟩ := write_spec own held fits (by simp [WorkerBuffers.ids]) apart.minimum_weights
  have kept := (Memory.buffer?_replace_of_ne held (.reals (Memory.overwrite old
    [Scalar.least (batch.indices.map p.form)])) apart.minimum_energies).trans henergies
  refine (post_reduceLeast henergies held enough room).2 ?_
  rw [forms]
  refine ⟨⟨own', energies, kept, enough, forms⟩, outside, _, written, ?_, rfl⟩
  rw [Memory.length_overwrite fits]
  exact room

/-- The indices of a batch at an energy are written to the worker's selection, and their number to its count. -/
theorem select_spec (h : w.Computed p m batch) (short : batch.size ≤ w.batch.1.toNat) {energy : R} {xs : List Index}
    (hxs : xs = batch.indices.filter fun x => p.form x == energy) :
    Post (Kernel.run (.select w.buffers.energies batch.size energy batch.start w.buffers.selected w.buffers.count)) m
      (fun _ m' => w.Owns p m' ∧ Memory.SameOutside w.buffers.ids m m' ∧
        (∃ values, m'.HasIndices w.buffers.count values ∧ 1 ≤ values.length ∧
          values.take 1 = [xs.length.toUInt64]) ∧
        ∃ values, m'.HasIndices w.buffers.selected values ∧ xs.length ≤ values.length ∧ values.take xs.length = xs)
      fun _ _ => False := by
  obtain ⟨own, energies, henergies, enough, forms⟩ := h
  obtain ⟨old, held, room⟩ := own.selected
  obtain ⟨old', held', room'⟩ := own.count
  have apart := apart_of_nodup own.nodup
  have few : xs.length ≤ batch.size := by
    rw [hxs, ← Span.length_indices]
    exact List.length_filter_le _ _
  have fits : xs.length ≤ old.length := Nat.le_trans (Nat.le_trans few short) room
  have selected : selectedFrom (energies.take batch.size) energy batch.start = xs := by
    rw [forms, hxs]
    exact selectedFrom_map p.form batch energy
  obtain ⟨own₁, outside₁, written₁⟩ := write_indices_spec own held fits (by simp [WorkerBuffers.ids])
    apart.selected_weights
  -- the count is written after the selection, into a buffer of its own
  have count₁ := (Memory.buffer?_replace_of_ne held (.indices (Memory.overwrite old xs))
    apart.selected_count).trans held'
  have one : [xs.length.toUInt64].length ≤ old'.length := room'
  obtain ⟨own₂, outside₂, written₂⟩ := write_indices_spec own₁ count₁ one (by simp [WorkerBuffers.ids])
    apart.count_weights
  have kept := (Memory.buffer?_replace_of_ne count₁ (.indices (Memory.overwrite old' [xs.length.toUInt64]))
    apart.selected_count.symm).trans written₁
  refine (post_select henergies held held' apart.selected_count enough selected fits room').2
    ⟨own₂, outside₁.trans outside₂, ⟨_, written₂, ?_, rfl⟩, _, kept, ?_, Memory.take_overwrite⟩
  · rw [Memory.length_overwrite one]
    exact room'
  · rw [Memory.length_overwrite fits]
    exact fits

/-! ## Batches -/

/-- The commands that leave the least energy of a batch in the worker's minimum. -/
def minimumCommands (w : Worker R) (batch : Span) : List (Command R) :=
  [.launch (.writeAssignments w.buffers.bits w.n batch.start batch.stop),
    .launch (.energies w.buffers.weights w.buffers.bits w.n batch.size w.buffers.energies),
    .launch (.reduceLeast w.buffers.energies batch.size w.buffers.minimum)]

/-- The command that picks out the indices of a batch at an energy. -/
def selectCommand (w : Worker R) (batch : Span) (energy : R) : Command R :=
  .launch (.select w.buffers.energies batch.size energy batch.start w.buffers.selected w.buffers.count)

/-- The least energy of a batch is its least form. -/
theorem runAll_minimumCommands (own : w.Owns p m) (ordered : batch.start ≤ batch.stop)
    (short : batch.size ≤ w.batch.1.toNat) :
    Post (Command.runAll (w.minimumCommands batch)) m
      (fun _ m' => w.Computed p m' batch ∧ Memory.SameOutside w.buffers.ids m m' ∧
        ∃ values, m'.HasReals w.buffers.minimum values ∧ 1 ≤ values.length ∧
          values.take 1 = [Scalar.least (batch.indices.map p.form)]) fun _ _ => False := by
  rw [minimumCommands, own.size, Command.runAll, post_bind]
  refine (writeAssignments_spec own ordered short).mono ?_ fun _ _ never => never
  intro _ m₁ after
  obtain ⟨own₁, outside₁, bits, hbits, enough, rows⟩ := after
  rw [Command.runAll, post_bind]
  refine (energies_spec own₁ short hbits enough rows).mono ?_ fun _ _ never => never
  intro _ m₂ after
  obtain ⟨computed₂, outside₂⟩ := after
  rw [Command.runAll, post_bind]
  refine (reduceLeast_spec computed₂).mono ?_ fun _ _ never => never
  intro _ m₃ after
  obtain ⟨computed₃, outside₃, minimum⟩ := after
  exact ⟨computed₃, (outside₁.trans outside₂).trans outside₃, minimum⟩

/-- The indices of a batch at an energy are those with this form, in order. -/
theorem runAll_selectCommand (computed : w.Computed p m batch) (short : batch.size ≤ w.batch.1.toNat) {energy : R}
    {xs : List Index} (hxs : xs = batch.indices.filter fun x => p.form x == energy) :
    Post (Command.runAll [w.selectCommand batch energy]) m
      (fun _ m' => w.Owns p m' ∧ Memory.SameOutside w.buffers.ids m m' ∧
        (∃ values, m'.HasIndices w.buffers.count values ∧ 1 ≤ values.length ∧
          values.take 1 = [xs.length.toUInt64]) ∧
        ∃ values, m'.HasIndices w.buffers.selected values ∧ xs.length ≤ values.length ∧ values.take xs.length = xs)
      fun _ _ => False := by
  rw [Command.runAll, post_bind]
  exact (select_spec computed short hxs).mono (fun _ _ done => done) fun _ _ never => never

/-- The number of indices that are picked out of a batch is a word. -/
theorem toNat_length_selected {xs : List Index} {select : Index → Bool} (hxs : xs = batch.indices.filter select) :
    xs.length.toUInt64.toNat = xs.length := by
  have few : xs.length ≤ batch.size := by
    rw [hxs, ← Span.length_indices]
    exact List.length_filter_le _ _
  have high := batch.stop.toNat_lt
  rw [Span.size] at few
  exact Nat.mod_eq_of_lt (by show xs.length < 2 ^ 64; omega)

theorem minimumOf_spec (h : g.Ready) (own : w.Owns p m) (ordered : batch.start ≤ batch.stop)
    (short : batch.size ≤ w.batch.1.toNat) :
    Post (w.minimumOf batch) (g.loaded m [])
      (fun energy g' => energy = Scalar.least (batch.indices.map p.form) ∧
        ∃ m', g' = g.loaded m' [] ∧ w.Computed p m' batch ∧ Memory.SameOutside w.buffers.ids m m')
      fun _ _ => False := by
  -- three kernels are queued, and run when the machine is waited for
  rw [minimumOf, post_bind, Guarded.post_launch h.alive, post_bind, Guarded.post_launch h.alive, post_bind,
    Guarded.post_launch h.alive, post_bind]
  refine Guarded.post_synchronize h.alive ?_
  refine (runAll_minimumCommands own ordered short).mono ?_ fun _ _ never => never
  intro _ m' after
  obtain ⟨computed, outside, minimum, hminimum, room, least⟩ := after
  show Post (readReals _ 1 >>= _) _ _ _
  rw [post_bind, Guarded.post_readReals h.alive hminimum room, least]
  exact ⟨rfl, m', rfl, computed, outside⟩

theorem indicesAt_spec (h : g.Ready) (computed : w.Computed p m batch) (short : batch.size ≤ w.batch.1.toNat)
    (energy : R) :
    Post (w.indicesAt batch energy) (g.loaded m [])
      (fun xs g' => xs = (batch.indices.filter fun x => p.form x == energy) ∧
        ∃ m', g' = g.loaded m' [] ∧ w.Owns p m' ∧ Memory.SameOutside w.buffers.ids m m') fun _ _ => False := by
  generalize hxs : (batch.indices.filter fun x => p.form x == energy) = xs
  rw [indicesAt, post_bind, Guarded.post_launch h.alive, post_bind]
  refine Guarded.post_synchronize h.alive ?_
  refine (runAll_selectCommand computed short hxs.symm).mono ?_ fun _ _ never => never
  intro _ m' after
  obtain ⟨own, outside, ⟨counts, hcounts, room, count⟩, selected, hselected, fits, front⟩ := after
  show Post (readIndices _ 1 >>= _) _ _ _
  rw [post_bind, Guarded.post_readIndices h.alive hcounts room, count, post_bind]
  show Post (readIndices _ xs.length.toUInt64.toNat) _ _ _
  rw [toNat_length_selected hxs.symm, Guarded.post_readIndices h.alive hselected fits]
  exact ⟨front, m', rfl, own, outside⟩

variable [Scalar.Ordered R] {met : List Index}

/-- How scanning leaves a worker: the owner of its buffers, all others as they were, with further indices met. -/
structure Scanned (g : Guarded (Machine R)) (w : Worker R) (p : Problem R) (m : Memory R) (met : List Index)
    (t : Guarded (Machine R) × Worker R) : Prop where
  same : t.2.n = w.n ∧ t.2.batch = w.batch ∧ t.2.buffers = w.buffers
  holds : t.2.best.Holds p.form met
  memory : ∃ m', t.1 = g.loaded m' [] ∧ w.Owns p m' ∧ Memory.SameOutside w.buffers.ids m m'

/-- A batch is taken in with the forms of its indices. -/
theorem scanBatch_spec (h : g.Ready) (own : w.Owns p m) (holds : w.best.Holds p.form met)
    (ordered : batch.start ≤ batch.stop) (short : batch.size ≤ w.batch.1.toNat) :
    Post (scanBatch batch) (g.loaded m [], w) (fun _ t => Scanned g w p m (met ++ batch.indices) t)
      fun _ _ => False := by
  rw [scanBatch, post_bind, post_get, post_bind, post_onFirst]
  refine (minimumOf_spec h own ordered short).mono ?_ fun _ _ never => never
  rintro energy _ ⟨least, m₁, rfl, computed, outside₁⟩
  rw [post_bind, post_modify]
  have taken := holds.takeBatch least
  rw [Incumbent.take] at taken
  by_cases reached : (w.best.lower energy).reaches energy = true
  · rw [if_pos reached] at taken ⊢
    rw [post_bind, post_onFirst]
    refine (indicesAt_spec h computed short energy).mono ?_ fun _ _ never => never
    rintro _ _ ⟨rfl, m₂, rfl, own₂, outside₂⟩
    exact ⟨⟨rfl, rfl, rfl⟩, taken, m₂, rfl, own₂, outside₁.trans outside₂⟩
  · rw [if_neg reached] at taken ⊢
    exact ⟨⟨rfl, rfl, rfl⟩, taken, m₁, rfl, computed.owns, outside₁⟩

/-! ## Spans -/

omit [Scalar R] [Scalar.Ordered R] in
theorem Owns.of_worker {w' : Worker R} (own : w.Owns p m)
    (same : w'.n = w.n ∧ w'.batch = w.batch ∧ w'.buffers = w.buffers) : w'.Owns p m := by
  obtain ⟨n, batch, buffers, best⟩ := w'
  obtain ⟨rfl, rfl, rfl⟩ := same
  exact ⟨own.size, own.nodup, own.weights, own.bits, own.energies, own.minimum, own.selected, own.count⟩

omit [Scalar.Ordered R] in
/-- One scan after another. -/
theorem Scanned.trans {w' : Worker R} {m' : Memory R} {met : List Index} {t : Guarded (Machine R) × Worker R}
    (same : w'.n = w.n ∧ w'.batch = w.batch ∧ w'.buffers = w.buffers) (outside : Memory.SameOutside w.buffers.ids m m')
    (next : Scanned g w' p m' met t) : Scanned g w p m met t := by
  obtain ⟨⟨n, batch, buffers⟩, holds, m'', loaded, own, outside'⟩ := next
  have back : w.n = w'.n ∧ w.batch = w'.batch ∧ w.buffers = w'.buffers :=
    ⟨same.1.symm, same.2.1.symm, same.2.2.symm⟩
  rw [same.2.2] at outside'
  exact ⟨⟨n.trans same.1, batch.trans same.2.1, buffers.trans same.2.2⟩, holds, m'', loaded, own.of_worker back,
    outside.trans outside'⟩

/-- In the middle of a span: the batches that are left hold the indices that were not met yet, in order. -/
structure Underway (g : Guarded (Machine R)) (w : Worker R) (p : Problem R) (met : List Index) (span : Span)
    (rest : List Span) (t : Guarded (Machine R) × Worker R) : Prop where
  batches : ∀ b ∈ rest, b ∈ span.batches w.batch
  scanned : ∃ done, done ++ rest.flatMap Span.indices = span.indices ∧
    Scanned g w p g.device.memory (met ++ done) t

/-- One batch after another. -/
theorem underway_step (h : g.Ready) {span : Span} {rest : List Span} {t : Guarded (Machine R) × Worker R}
    (underway : Underway g w p met span (batch :: rest) t) :
    Post (scanBatch batch) t (fun _ t' => Underway g w p met span rest t') fun _ _ => False := by
  obtain ⟨batches, done, parts, same, holds, m, loaded, own, outside⟩ := underway
  obtain ⟨g', w'⟩ := t
  obtain rfl : g' = g.loaded m [] := loaded
  obtain ⟨-, nonempty, -, short⟩ := Span.mem_batches (batches batch List.mem_cons_self)
  have short' : batch.size ≤ w'.batch.1.toNat := by
    rw [same.2.1]
    exact short
  refine (scanBatch_spec h (own.of_worker same) holds (UInt64.le_of_lt nonempty) short').mono ?_ fun _ _ never => never
  intro _ t' next
  refine ⟨fun b hb => batches b (List.mem_cons_of_mem _ hb), done ++ batch.indices, ?_, ?_⟩
  · rw [← parts, List.flatMap_cons, List.append_assoc]
  · rw [List.append_assoc] at next
    exact next.trans same outside

/-- All indices of a span are taken in, in order. -/
theorem scan_spec (h : g.Ready) (own : w.Owns p g.device.memory) (holds : w.best.Holds p.form met) (span : Span) :
    Post (scan span) (g, w) (fun _ t => Scanned g w p g.device.memory (met ++ span.indices) t) fun _ _ => False := by
  have start : Underway g w p met span (span.batches w.batch) (g, w) := by
    refine ⟨fun _ hb => hb, [], ?_, ⟨rfl, rfl, rfl⟩, ?_, _, h.loaded_self.symm, own, Memory.SameOutside.refl _ _⟩
    · rw [List.nil_append, Span.flatMap_batches]
    · rw [List.append_nil]
      exact holds
  rw [scan, post_bind, post_onFirst, post_acquire h.held, post_bind, post_get, Span.walkBatches_eq_forM]
  refine (post_forM (span.batches w.batch) (fun _ _ _ => underway_step h) start).mono ?_ fun _ _ never => never
  intro _ t after
  obtain ⟨-, done, all, scanned⟩ := after
  rw [List.flatMap_nil, List.append_nil] at all
  rwa [all] at scanned

end BinaryQuadratic.Device.Worker
