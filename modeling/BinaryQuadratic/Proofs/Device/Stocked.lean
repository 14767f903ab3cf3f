import BinaryQuadratic.Proofs.Device.Faulty
import BinaryQuadratic.Proofs.Device.Scan

/-!
# Pools on a machine that may fail

When requests fail, commands stay in the queue of the machine, and some of them may come to name buffers that were freed
since. They do no harm to the workers there are: a command that does not find its operands loses the machine, and one
that does leaves the shapes of all buffers, and the weights of all workers, as they are (`Stocked`). So what a worker
computes is right whenever it computes anything, whatever was queued before; and it can compute as long as no buffer
that a queued command names is gone (`Machine.Clear`).
-/

namespace BinaryQuadratic.Device

open Step

variable {R : Type}

/-! ## Clear queues -/

/-- No command in the queue names a buffer that was freed. -/
def Machine.Clear (d : Machine R) : Prop := ∀ command ∈ d.queue, command.IsLive d.memory

theorem Machine.clear_of_idle {d : Machine R} (idle : d.queue = []) : d.Clear := by
  intro command among
  rw [idle] at among
  exact absurd among List.not_mem_nil

/-- The queue is the same and so are all buffers that were allocated before; there may be new ones. -/
structure Machine.Extends (d d' : Machine R) : Prop where
  poisoned : d'.poisoned = d.poisoned
  queue : d'.queue = d.queue
  size : d.memory.slots.size ≤ d'.memory.slots.size
  same {id : Nat} : id < d.memory.slots.size → d'.memory.buffer? id = d.memory.buffer? id

namespace Machine

variable {d d' d'' : Machine R}

theorem Extends.narrows (h : d.Extends d') : Memory.Narrows d.memory d'.memory := by
  refine ⟨h.size, fun {id} low => Or.inr ?_⟩
  rw [Memory.shape?, h.same low, Memory.shape?]

theorem extends_grown (d : Machine R) (buffers : List (Buffer R)) : d.Extends (d.grown buffers) := by
  refine ⟨rfl, rfl, ?_, fun low => Memory.buffer?_pushAll_of_lt _ _ low⟩
  exact Nat.le_trans (Nat.le_add_right _ _) (Nat.le_of_eq (Memory.size_pushAll _ _).symm)

/-- Freeing new buffers leaves the old ones as they were. -/
theorem Extends.freed (h : d.Extends d') {ids : List Nat} (freed : Freed ids d' d'')
    (new : ∀ id ∈ ids, d.memory.slots.size ≤ id) : d.Extends d'' := by
  refine ⟨freed.poisoned.trans h.poisoned, freed.queue.trans h.queue, ?_, fun {id} low => ?_⟩
  · rw [freed.size]
    exact h.size
  · rw [freed.outside id fun among => absurd (new id among) (Nat.not_le.2 low)]
    exact h.same low

end Machine

/-! ## Stocked machines -/

variable [Scalar R] {p : Problem R} {tile : UInt64} {d d' : Machine R} {w w' : Worker R}
  {pool before after : List (Worker R)}

/-- The workers of a pool for tiles of this size own their buffers, each its own; and the queue holds proper commands
only, none of which writes the weights of a worker. -/
structure Stocked (p : Problem R) (tile : UInt64) (d : Machine R) (pool : List (Worker R)) : Prop where
  owns : ∀ w ∈ pool, w.Owns p d.memory
  batch : ∀ w ∈ pool, w.batch = Worker.batchFor tile
  nodup : (pool.flatMap (·.buffers.ids)).Nodup
  proper : ∀ command ∈ d.queue, command.Proper d.memory
  spares : ∀ command ∈ d.queue, ∀ id ∈ command.writes, ∀ w ∈ pool, id ≠ w.buffers.weights.id

/-- A command of a worker: its operands are there, and it writes buffers of the worker, but not the weights. -/
structure Worker.Issues (w : Worker R) (m : Memory R) (command : Command R) : Prop where
  proper : command.Proper m
  live : command.IsLive m
  writes : ∀ id ∈ command.writes, id ∈ w.buffers.ids ∧ id ≠ w.buffers.weights.id

namespace Stocked

omit [Scalar R] in
theorem weights_mem (w : Worker R) : w.buffers.weights.id ∈ w.buffers.ids := by simp [WorkerBuffers.ids]

omit [Scalar R] in
/-- A buffer belongs to one worker of the pool only. -/
theorem eq_of_mem {pool : List (Worker R)} (nodup : (pool.flatMap (·.buffers.ids)).Nodup) (hw : w ∈ pool)
    (hw' : w' ∈ pool) {id : Nat} (own : id ∈ w.buffers.ids) (own' : id ∈ w'.buffers.ids) : w = w' := by
  induction pool with
  | nil => exact absurd hw List.not_mem_nil
  | cons v pool ih =>
    rw [List.flatMap_cons, List.nodup_append] at nodup
    obtain ⟨-, rest, apart⟩ := nodup
    rcases List.mem_cons.1 hw with rfl | later
    · rcases List.mem_cons.1 hw' with rfl | later'
      · rfl
      · exact absurd rfl (apart id own id (List.mem_flatMap.2 ⟨w', later', own'⟩))
    · rcases List.mem_cons.1 hw' with rfl | later'
      · exact absurd rfl (apart id own' id (List.mem_flatMap.2 ⟨w, later, own⟩))
      · exact ih rest later later'

omit [Scalar R] in
theorem nil (proper : ∀ command ∈ d.queue, command.Proper d.memory) : Stocked p tile d [] :=
  ⟨fun _ none => absurd none List.not_mem_nil, fun _ none => absurd none List.not_mem_nil, List.nodup_nil, proper,
    fun _ _ _ _ _ none => absurd none List.not_mem_nil⟩

omit [Scalar R] in
/-- Workers have room for what they met, which has nothing to do with the machine. -/
theorem alike (h : Stocked p tile d (before ++ w :: after)) (same : w.Alike w') :
    Stocked p tile d (before ++ w' :: after) := by
  obtain ⟨owns, batch, nodup, proper, spares⟩ := h
  rw [List.forall_mem_append, List.forall_mem_cons] at owns batch
  refine ⟨?_, ?_, ?_, proper, fun command queued id written => ?_⟩
  · rw [List.forall_mem_append, List.forall_mem_cons]
    exact ⟨owns.1, owns.2.1.of_worker same, owns.2.2⟩
  · rw [List.forall_mem_append, List.forall_mem_cons, same.2.1]
    exact batch
  · rw [List.flatMap_append, List.flatMap_cons, same.2.2]
    rwa [List.flatMap_append, List.flatMap_cons] at nodup
  · have others := spares command queued id written
    rw [List.forall_mem_append, List.forall_mem_cons] at others ⊢
    rwa [same.2.2]

theorem reset (h : Stocked p tile d pool) : Stocked p tile d (pool.map Worker.reset) := by
  refine ⟨fun w hw => ?_, fun w hw => ?_, ?_, h.proper, fun command queued id written w hw => ?_⟩
  · obtain ⟨v, hv, rfl⟩ := List.mem_map.1 hw
    exact (h.owns v hv).of_worker ⟨rfl, rfl, rfl⟩
  · obtain ⟨v, hv, rfl⟩ := List.mem_map.1 hw
    exact h.batch v hv
  · rw [List.flatMap_map]
    exact h.nodup
  · obtain ⟨v, hv, rfl⟩ := List.mem_map.1 hw
    exact h.spares command queued id written v hv

omit [Scalar R] in
/-- A worker may queue its commands. -/
theorem queued (h : Stocked p tile d pool) (hw : w ∈ pool) {command : Command R} (issues : w.Issues d.memory command) :
    Stocked p tile (d.queued command) pool := by
  refine ⟨h.owns, h.batch, h.nodup, ?_, ?_⟩
  · rintro c among
    rcases List.mem_append.1 among with old | new
    · exact h.proper c old
    · rw [List.mem_singleton.1 new]
      exact issues.proper
  · intro c among id written v hv
    rcases List.mem_append.1 among with old | new
    · exact h.spares c old id written v hv
    · rw [List.mem_singleton.1 new] at written
      obtain ⟨own, other⟩ := issues.writes id written
      rintro rfl
      rw [eq_of_mem h.nodup hw hv own (weights_mem v)] at other
      exact other rfl

omit [Scalar R] in
/-- Running the queue leaves the workers their buffers and their weights. -/
theorem ran (h : Stocked p tile d pool) {m : Memory R} (run : Ran (d.queue.flatMap Command.writes) d.memory m)
    (hw : w ∈ pool) : w.Owns p m := by
  have own := h.owns w hw
  have kept : m.buffer? w.buffers.weights.id = d.memory.buffer? w.buffers.weights.id := by
    refine run.outside _ fun written => ?_
    obtain ⟨command, queued, among⟩ := List.mem_flatMap.1 written
    exact h.spares command queued _ among w hw rfl
  exact ⟨own.size, own.nodup, kept.trans own.weights, own.bits.of_sameShapes run.shapes,
    own.energies.of_sameShapes run.shapes, own.minimum.of_sameShapes run.shapes,
    own.selected.of_sameShapes run.shapes, own.count.of_sameShapes run.shapes⟩

omit [Scalar R] in
/-- With nothing in the queue it is about the workers only. -/
theorem drained (h : Stocked p tile d pool) {m : Memory R} (owns : ∀ w ∈ pool, w.Owns p m) :
    Stocked p tile (d.drained m) pool :=
  ⟨owns, h.batch, h.nodup, fun _ none => absurd none List.not_mem_nil, fun _ none => absurd none List.not_mem_nil⟩

omit [Scalar R] in
/-- New buffers change nothing for the workers there are. -/
theorem extend (h : Stocked p tile d pool) (more : d.Extends d') : Stocked p tile d' pool := by
  refine ⟨fun w hw => ?_, h.batch, h.nodup, ?_, ?_⟩
  · exact (h.owns w hw).of_same fun id own => more.same ((h.owns w hw).lt_size own)
  · rw [more.queue]
    exact fun command among => (h.proper command among).narrow more.narrows
  · rw [more.queue]
    exact h.spares

omit [Scalar R] in
/-- Nor does freeing the buffers of others. -/
theorem freed (h : Stocked p tile d pool) {ids : List Nat} (freed : Machine.Freed ids d d')
    (others : ∀ w ∈ pool, ∀ id ∈ w.buffers.ids, id ∉ ids) : Stocked p tile d' pool := by
  refine ⟨fun w hw => ?_, h.batch, h.nodup, ?_, ?_⟩
  · exact (h.owns w hw).of_same fun id own => freed.outside id (others w hw id own)
  · rw [freed.queue]
    exact fun command among => (h.proper command among).narrow freed.narrows
  · rw [freed.queue]
    exact h.spares

omit [Scalar R] in
/-- Freeing the buffers of one worker leaves the others theirs. -/
theorem tail (h : Stocked p tile d (w :: pool)) (freed : Machine.Freed w.buffers.ids d d') :
    Stocked p tile d' pool := by
  have rest : Stocked p tile d pool := by
    have nodup := h.nodup
    rw [List.flatMap_cons, List.nodup_append] at nodup
    exact ⟨fun v hv => h.owns v (List.mem_cons_of_mem _ hv), fun v hv => h.batch v (List.mem_cons_of_mem _ hv),
      nodup.2.1, h.proper, fun c queued id written v hv => h.spares c queued id written v (List.mem_cons_of_mem _ hv)⟩
  refine rest.freed freed fun v hv id own own' => ?_
  have nodup := h.nodup
  rw [List.flatMap_cons, List.nodup_append] at nodup
  exact nodup.2.2 id own' id (List.mem_flatMap.2 ⟨v, hv, own⟩) rfl

/-- A queue that is clear is run to the end. -/
theorem exists_runAll (h : Stocked p tile d pool) (clear : d.Clear) :
    ∃ m, Command.runAll d.queue d.memory = .ok () m := (Command.runAll_eq_ok_iff h.proper).2 clear

end Stocked

/-- How a pool is left by an error: stocked, unless the machine was lost. -/
def Left (p : Problem R) (tile : UInt64) (pool : List (Worker R)) (d : Machine R) : Prop :=
  d.poisoned = true ∨ Stocked p tile d pool

end BinaryQuadratic.Device
