import BinaryQuadratic.Proofs.Device.Stocked

/-!
# Workers on a machine that may fail

A worker is made on a machine that may fail with buffers that no other worker has, or it is not made and the others are
left as they were (`create_attempt`). It is made only if nothing in the queue names a buffer that was freed: making it
waits for everything that is queued. Giving up a worker leaves the others as they were as well, whether its buffers can
be freed or not (`discard_faulty`).
-/

namespace BinaryQuadratic.Device

open Step

variable {R : Type} [Scalar R] {p : Problem R} {tile : UInt64} {d d' : Machine R} {w : Worker R}
  {pool : List (Worker R)}

/-! ## Allocating -/

namespace WorkerBuffers

variable {g : Guarded (Faulty (Machine R) R)} {buffers : List (Buffer R)} {n batch : Nat}

/-- A buffer is allocated after those that are there already, or these are freed. -/
theorem allocateNext_attempt {α : Type} {step : Step DeviceError (Guarded (Faulty (Machine R) R)) α} {wrap : Nat → α}
    {buffer : Buffer R} {accepted : Prop} (here : g.machine = d.grown buffers)
    (h : Attempt step g (g.machine.poisoned = false ∧ accepted)
      (fun a d' => a = wrap g.machine.memory.slots.size ∧ d' = g.machine.grown [buffer] ∧ g.machine.poisoned = false)
      (· = g.machine))
    (enough : d.Accommodates n batch → accepted) :
    Attempt (step.orCleanup (freeAll (List.range' d.memory.slots.size buffers.length))) g
      (d.poisoned = false ∧ d.Accommodates n batch)
      (fun a d' => a = wrap (d.memory.slots.size + buffers.length) ∧ d' = d.grown (buffers ++ [buffer])) d.Extends := by
  refine ((h.mono (fun good => ⟨?_, enough good.2⟩) ?_ fun _ same => same).orCleanup fun g' same => ?_)
  · rw [here]
    exact good.1
  · rintro _ _ ⟨rfl, rfl, -⟩
    rw [here]
    refine ⟨congrArg wrap (Memory.size_pushAll _ _), ?_⟩
    rw [Machine.grown_append, Machine.grown, Buffer.total_cons, Buffer.total_nil, Nat.add_zero]
    rfl
  · refine (Attempt.freeAll _).mono id (fun _ d' freed => ?_) fun _ never => never.elim
    rw [show g'.machine = d.grown buffers from same.trans here] at freed
    exact (Machine.extends_grown d buffers).freed freed fun id among => (List.mem_range'_1.1 among).1

/-- A buffer of rows is refused as any other, and also if its length is not a word. -/
theorem allocRows_attempt (a b : Nat) :
    Attempt (bufferLength a b >>= allocReals) g
      (g.machine.poisoned = false ∧ a * b < 2 ^ 64 ∧ g.machine.Accepts (Scalar.bytes R) (a * b))
      (fun buffer d' => buffer = ⟨g.machine.memory.slots.size⟩ ∧
        d' = g.machine.grown [.reals (List.replicate (a * b) 0)] ∧ g.machine.poisoned = false) (· = g.machine) := by
  unfold bufferLength
  split
  · exact (Attempt.allocReals (a * b)).mono (fun good => ⟨good.1, good.2.2⟩) (fun _ _ done => done) fun _ same => same
  · next large =>
    have refused : Attempt
        (Step.fail (.outOfMemory (2 ^ 64 - 1) 0) : Step DeviceError (Guarded (Faulty (Machine R) R)) Nat)
        g (g.machine.poisoned = false ∧ a * b < 2 ^ 64 ∧ g.machine.Accepts (Scalar.bytes R) (a * b))
        (fun _ _ => False) (· = g.machine) := Attempt.fail rfl fun good => large good.2.1
    exact refused.bind fun _ _ never => never.elim

/-- The next six buffers are allocated, or none that is not freed again. -/
theorem allocate_attempt (n batch : Nat) :
    Attempt (allocate n batch) g (g.machine.poisoned = false ∧ g.machine.Accommodates n batch)
      (fun buffers d => buffers = numbered g.machine.memory.slots.size ∧ d = g.machine.grown (blank R n batch) ∧
        g.machine.poisoned = false) g.machine.Extends := by
  generalize hd : g.machine = d
  -- each request fits into the footprint along with those before it
  have accepts {g' : Guarded (Faulty (Machine R) R)} {buffers : List (Buffer R)} {bytes length : Nat}
      (here : g'.machine = d.grown buffers) (all : d.Accommodates n batch)
      (within : Buffer.total buffers + length ≤ footprint n batch) (fits : HostMemory.Fits length bytes) :
      g'.machine.Accepts bytes length := by
    rw [here]
    exact ⟨Machine.hasRoom_grown (all.room.mono within), fits⟩
  have start : g.machine = d.grown [] := hd
  have first : Attempt (bufferLength n n >>= allocReals) g (d.poisoned = false ∧ d.Accommodates n batch)
      (fun a d' => a = ⟨d.memory.slots.size⟩ ∧ d' = d.grown [.reals (List.replicate (n * n) 0)] ∧
        d.poisoned = false) d.Extends := by
    refine (allocRows_attempt n n).mono (fun good => ⟨hd ▸ good.1, good.2.blocks.weights.1,
      accepts start good.2 (by simp [footprint]; omega) good.2.blocks.weights.2⟩) ?_ ?_
    · rintro _ _ ⟨rfl, rfl, alive⟩
      rw [hd] at alive ⊢
      exact ⟨rfl, rfl, alive⟩
    · rintro _ rfl
      rw [start]
      exact Machine.extends_grown d []
  refine first.bind fun _ g₁ done₁ => ?_
  obtain ⟨rfl, hd₁, alive⟩ := done₁
  refine (allocateNext_attempt hd₁ (allocRows_attempt n batch) fun all => ⟨all.blocks.bits.1,
    accepts hd₁ all (by simp [Buffer.length, footprint]; omega) all.blocks.bits.2⟩).bind fun _ g₂ done₂ => ?_
  obtain ⟨rfl, hd₂⟩ := done₂
  refine (allocateNext_attempt hd₂ (Attempt.allocReals batch) fun all =>
    accepts hd₂ all (by simp [Buffer.length, footprint]; omega) all.blocks.energies).bind
    fun _ g₃ done₃ => ?_
  obtain ⟨rfl, hd₃⟩ := done₃
  refine (allocateNext_attempt hd₃ (Attempt.allocReals 1) fun all =>
    accepts hd₃ all (by simp [Buffer.length, footprint]; omega) all.blocks.minimum).bind
    fun _ g₄ done₄ => ?_
  obtain ⟨rfl, hd₄⟩ := done₄
  refine (allocateNext_attempt hd₄ (Attempt.allocIndices batch) fun all =>
    accepts hd₄ all (by simp [Buffer.length, footprint]; omega) all.blocks.selected).bind
    fun _ g₅ done₅ => ?_
  obtain ⟨rfl, hd₅⟩ := done₅
  refine (allocateNext_attempt hd₅ (Attempt.allocIndices 1) fun all =>
    accepts hd₅ all (by simp [Buffer.length, footprint]; omega) (by decide)).bind fun _ g₆ done₆ => ?_
  obtain ⟨rfl, hd₆⟩ := done₆
  exact Attempt.pure ⟨rfl, hd₆, alive⟩

end WorkerBuffers

/-! ## Creating and giving up workers -/

namespace Worker

variable {g : Guarded (Faulty (Machine R) R)}

/-- Copying weights to the first of new buffers. -/
theorem proper_upload (d : Machine R) (p : Problem R) (batch : Nat) :
    (Command.copy ⟨d.memory.slots.size⟩ p.weights.data.toList).Proper
        (d.memory.pushAll (WorkerBuffers.blank R p.size batch)) ∧
      (Command.copy ⟨d.memory.slots.size⟩ p.weights.data.toList).IsLive
        (d.memory.pushAll (WorkerBuffers.blank R p.size batch)) := by
  have first := hasReals_first d.memory p batch
  have room : p.weights.data.toList.length ≤ (List.replicate (p.size * p.size) (0 : R)).length :=
    Nat.le_of_eq (by rw [length_weights, List.length_replicate])
  refine ⟨⟨trivial, ?_⟩, ?_⟩
  · simpa [Command.operands] using Memory.suits_of_roomReals ⟨_, first, room⟩
  · simpa [Command.IsLive, Command.operands] using Memory.isLive_of_reals first

/-- A copy to a new buffer is nothing to the workers there are. -/
theorem stocked_upload (stocked : Stocked p tile d pool) (batch : Nat) :
    Stocked p tile ((d.grown (WorkerBuffers.blank R p.size batch)).queued
      (.copy ⟨d.memory.slots.size⟩ p.weights.data.toList)) pool := by
  have grown := stocked.extend (d.extends_grown (WorkerBuffers.blank R p.size batch))
  refine ⟨grown.owns, grown.batch, grown.nodup, ?_, ?_⟩
  · intro command among
    rcases List.mem_append.1 among with old | new
    · exact grown.proper command old
    · rw [List.mem_singleton.1 new]
      exact (proper_upload d p batch).1
  · intro command among id written w hw
    rcases List.mem_append.1 among with old | new
    · exact grown.spares command old id written w hw
    · -- the weights of a worker were allocated before
      rw [List.mem_singleton.1 new] at written
      rw [List.mem_singleton.1 written]
      exact Nat.ne_of_gt ((stocked.owns w hw).lt_size (Stocked.weights_mem w))

/-- Nothing that is freed is waited for when the copy was queued, unless it was before. -/
theorem clear_upload (stocked : Stocked p tile d pool) (batch : Nat) (clear : d.Clear) :
    ((d.grown (WorkerBuffers.blank R p.size batch)).queued
      (.copy ⟨d.memory.slots.size⟩ p.weights.data.toList)).Clear := by
  refine List.forall_mem_append.2 ⟨fun command among operand hoperand => ?_, ?_⟩
  · have low := ((stocked.proper command among).suits operand hoperand).low
    show (d.memory.pushAll _).IsLive operand.1
    rw [Memory.IsLive, Memory.buffer?_pushAll_of_lt _ _ low]
    exact clear command among operand hoperand
  · exact List.forall_mem_singleton.2 (proper_upload d p batch).2

omit [Scalar R] in
/-- A command that was queued before finds its operands among the old buffers. -/
theorem clear_of_extends (proper : ∀ command ∈ d.queue, command.Proper d.memory) (more : d.Extends d')
    (live : ∀ command ∈ d.queue, command.IsLive d'.memory) : d.Clear := by
  intro command among operand hoperand
  have there := live command among operand hoperand
  rwa [Memory.IsLive, more.same ((proper command among).suits operand hoperand).low] at there

/-- The first of new buffers holds the weights once these are copied to it. -/
theorem hasReals_upload {m m' : Memory R} {batch : Nat}
    (shapes : Memory.SameShapes (d.memory.pushAll (WorkerBuffers.blank R p.size batch)) m)
    (ran : Command.runAll [.copy ⟨d.memory.slots.size⟩ p.weights.data.toList] m = .ok () m') :
    m'.HasReals ⟨d.memory.slots.size⟩ p.weights.data.toList := by
  obtain ⟨old, held, length⟩ := Memory.exists_reals_of_shape?
    ((shapes.shape _).trans (Memory.shape?_of_reals (hasReals_first d.memory p batch)))
  have whole : p.weights.data.toList.length = old.length := by
    rw [length_weights, length, List.length_replicate]
  have run : Post (Command.run (.copy ⟨d.memory.slots.size⟩ p.weights.data.toList)) m
      (fun _ m' => m'.HasReals ⟨d.memory.slots.size⟩ p.weights.data.toList) fun _ _ => False := by
    refine (post_copy held (Nat.le_of_eq whole)).2 ?_
    rw [Memory.overwrite_of_length whole]
    exact Memory.buffer?_replace_self held _
  obtain ⟨_, m₁, done, holds⟩ := run.exists_ok
  rw [Command.runAll, bind_apply, done] at ran
  cases ran
  exact holds

/-- A new worker finds all it needs in its buffers once the first of them holds the weights. -/
theorem owns_upload {m : Memory R}
    (shapes : Memory.SameShapes (d.memory.pushAll (WorkerBuffers.blank R p.size (batchFor tile).1.toNat)) m)
    (weights : m.HasReals ⟨d.memory.slots.size⟩ p.weights.data.toList) :
    Owns ⟨p.size, batchFor tile, WorkerBuffers.numbered d.memory.slots.size, .empty⟩ p m := by
  have whole : p.weights.data.toList.length = (List.replicate (p.size * p.size) (0 : R)).length := by
    rw [length_weights, List.length_replicate]
  -- all but the weights is as in a memory that was just equipped
  have blank := owns_equip d.memory p (batchFor tile) .empty
  have equipped : Memory.SameShapes (d.memory.pushAll (WorkerBuffers.blank R p.size (batchFor tile).1.toNat))
      (equip d.memory p (batchFor tile).1.toNat) :=
    Memory.sameShapes_replace (hasReals_first d.memory p _) (congrArg Shape.reals whole)
  have same := equipped.symm.trans shapes
  exact ⟨rfl, blank.nodup, weights, blank.bits.of_sameShapes same, blank.energies.of_sameShapes same,
    blank.minimum.of_sameShapes same, blank.selected.of_sameShapes same, blank.count.of_sameShapes same⟩

omit [Scalar R] in
/-- New buffers belong to none of the workers there are. -/
theorem nodup_upload (stocked : Stocked p tile d pool) {w : Worker R}
    (new : w.buffers = WorkerBuffers.numbered d.memory.slots.size) :
    ((pool ++ [w]).flatMap (·.buffers.ids)).Nodup := by
  rw [List.flatMap_append, List.flatMap_singleton, List.nodup_append, new, WorkerBuffers.ids_numbered]
  refine ⟨stocked.nodup, List.nodup_range', ?_⟩
  rintro id among _ last rfl
  obtain ⟨v, hv, own⟩ := List.mem_flatMap.1 among
  have low := (stocked.owns v hv).lt_size own
  have high := (List.mem_range'_1.1 last).1
  omega

/-- A new worker finds its weights in the first of its buffers, once everything that was queued was run. -/
theorem stocked_equipped (stocked : Stocked p tile d pool) {m : Memory R}
    (ran : Command.runAll (d.queue ++ [.copy ⟨d.memory.slots.size⟩ p.weights.data.toList])
      (d.memory.pushAll (WorkerBuffers.blank R p.size (batchFor tile).1.toNat)) = .ok () m) :
    Stocked p tile (d.drained m)
      (pool ++ [⟨p.size, batchFor tile, WorkerBuffers.numbered d.memory.slots.size, .empty⟩]) := by
  obtain ⟨m₁, old, new⟩ := Command.runAll_append_eq_ok ran
  have left := ((Command.post_runAll d.queue).of_ok old).1
  have copied := ((Command.post_runAll _).of_ok new).1
  have joined := owns_upload (left.shapes.trans copied.shapes) (hasReals_upload left.shapes new)
  have grown := stocked.extend (d.extends_grown (WorkerBuffers.blank R p.size (batchFor tile).1.toNat))
  refine ⟨fun w hw => ?_, fun w hw => ?_, nodup_upload stocked rfl, fun _ none => absurd none List.not_mem_nil,
    fun _ none => absurd none List.not_mem_nil⟩
  · rcases List.mem_append.1 hw with among | last
    · refine (grown.ran left among).of_same fun id own => copied.outside id fun written => ?_
      -- the copy is written to a buffer that was not there before
      have low := (stocked.owns w among).lt_size own
      have same : id = d.memory.slots.size := by simpa [Command.writes] using written
      omega
    · rw [List.mem_singleton.1 last]
      exact joined
  · rcases List.mem_append.1 hw with among | last
    · exact stocked.batch w among
    · rw [List.mem_singleton.1 last]

/-- The machine after a worker was made. -/
structure Created (p : Problem R) (tile : UInt64) (pool : List (Worker R)) (d : Machine R) (w : Worker R)
    (d' : Machine R) : Prop where
  clear : d.poisoned = false ∧ d.Clear
  alive : d'.poisoned = false
  idle : d'.queue = []
  stocked : Stocked p tile d' (pool ++ [w])
  room {length : Nat} : d.HasRoom (footprint p.size (batchFor tile).1.toNat + length) → d'.HasRoom length

/-- Uploading the weights to buffers that were just allocated. -/
theorem upload_attempt (stocked : Stocked p tile d pool)
    (here : g.machine = d.grown (WorkerBuffers.blank R p.size (batchFor tile).1.toNat)) :
    Attempt (do
        copy (WorkerBuffers.numbered d.memory.slots.size).weights p.weights.data.toList
        synchronize) g (d.poisoned = false ∧ d.Clear)
      (fun _ d' => Created p tile pool d
        ⟨p.size, batchFor tile, WorkerBuffers.numbered d.memory.slots.size, .empty⟩ d')
      (Left p tile pool) := by
  have more := d.extends_grown (WorkerBuffers.blank R p.size (batchFor tile).1.toNat)
  refine ((Attempt.copy _ _).mono (fun good => here ▸ good.1) (fun _ _ done => done) ?_).bind fun _ g₁ done₁ => ?_
  · rintro _ rfl
    rw [here]
    exact Or.inr (stocked.extend more)
  obtain ⟨hd₁, alive₁⟩ := done₁
  rw [here] at hd₁ alive₁
  have stocked₁ := stocked_upload stocked (batchFor tile).1.toNat
  refine Attempt.synchronize.mono (fun good => ?_) ?_ ?_
  · rw [hd₁]
    exact ⟨good.1, stocked₁.exists_runAll (clear_upload stocked _ good.2)⟩
  · rintro _ _ ⟨alive', m, ran, rfl⟩
    rw [hd₁] at ran ⊢
    have live := (List.forall_mem_append.1 ((Command.post_runAll _).of_ok ran).2).1
    have joined := stocked_equipped stocked ran
    refine ⟨⟨alive₁, clear_of_extends stocked.proper more live⟩, alive₁, rfl,
      ⟨joined.owns, joined.batch, joined.nodup, joined.proper, joined.spares⟩, fun {length} room => ?_⟩
    have left : (d.grown (WorkerBuffers.blank R p.size (batchFor tile).1.toNat)).HasRoom length := by
      refine Machine.hasRoom_grown ?_
      rw [WorkerBuffers.total_blank]
      exact room
    exact left
  · rintro d' (rfl | lost)
    · exact Or.inr (hd₁ ▸ stocked₁)
    · exact Or.inl lost

/-- A worker joins the pool, or the pool is left as it was. -/
theorem create_attempt (held : g.lost = false) (left : Left p tile pool g.machine) :
    Attempt (create p.weights tile) g
      (g.machine.poisoned = false ∧ g.machine.Clear ∧ g.machine.Accommodates p.size (batchFor tile).1.toNat)
      (fun w d => Created p tile pool g.machine w d) (Left p tile pool) := by
  generalize hd : g.machine = d at *
  generalize hfine : (d.poisoned = false ∧ d.Clear ∧ d.Accommodates p.size (batchFor tile).1.toNat) = fine
  have acquired : Attempt Guarded.acquire g fine (fun _ d' => d' = d) (Left p tile pool) := by
    unfold Attempt
    rw [Guarded.acquire, post_bind, post_get, held, if_neg Bool.false_ne_true, post_pure]
    exact ⟨d, hd ▸ .refl g, rfl⟩
  refine acquired.bind fun _ g₁ hd₁ => ?_
  have room : fine → g₁.machine.poisoned = false ∧ g₁.machine.Accommodates p.size (batchFor tile).1.toNat := by
    rw [hd₁, ← hfine]
    exact fun good => ⟨good.1, good.2.2⟩
  refine ((WorkerBuffers.allocate_attempt p.size (batchFor tile).1.toNat).mono room (fun _ _ done => done)
    fun d' more => ?_).bind fun buffers g₂ done₂ => ?_
  · rw [hd₁] at more
    exact left.imp (fun lost => more.poisoned.trans lost) fun stocked => stocked.extend more
  rw [hd₁] at done₂
  obtain ⟨rfl, hd₂, alive⟩ := done₂
  have stocked : Stocked p tile d pool := left.resolve_left (Bool.eq_false_iff.1 alive)
  have clear : fine → d.poisoned = false ∧ d.Clear := by
    rw [← hfine]
    exact fun good => ⟨good.1, good.2.1⟩
  have uploaded := (upload_attempt stocked hd₂).mono clear (fun _ _ done => done) fun _ left => left
  refine (uploaded.orCleanup fun g₃ left => ?_).bind fun _ g₃ created => Attempt.pure created
  refine (Attempt.freeAll _).mono id (fun _ d' freed => ?_) fun _ never => never
  rcases left with lost | stocked₃
  · exact Or.inl (freed.poisoned.trans lost)
  · -- none of the new buffers belongs to a worker
    refine Or.inr (stocked₃.freed freed fun w hw id own among => ?_)
    have low := (stocked.owns w hw).lt_size own
    rw [WorkerBuffers.ids_numbered] at among
    have high := (List.mem_range'_1.1 among).1
    omega

/-- Giving up a worker leaves the others as they are, whether its buffers are freed or not. -/
theorem discard_faulty (held : g.lost = false) (left : Left p tile (w :: pool) g.machine) :
    Post w.discard g (fun _ g' => ∃ d, g.Onward d g' ∧ Left p tile pool d) g.Broken := by
  rw [discard, post_bind, post_get, held]
  refine (freeAll_faulty_spec w.buffers.ids).mono ?_ fun _ _ broken => broken
  rintro _ g' ⟨d, onward, freed⟩
  exact ⟨d, onward, left.imp (fun lost => freed.poisoned.trans lost) fun stocked => stocked.tail freed⟩

end Worker

end BinaryQuadratic.Device
