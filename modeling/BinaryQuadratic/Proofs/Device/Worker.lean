import BinaryQuadratic.Proofs.Device.Kernel
import BinaryQuadratic.Proofs.Device.Machine
import BinaryQuadratic.Proofs.Incumbent

/-!
# Workers on a shared machine

A new worker gets the next six buffers of the machine, or none, and a machine that has room for them all never refuses
them. While a worker owns its buffers, scanning a batch replaces some of these and nothing else, and takes in the
indices of the batch with their forms.
-/

namespace BinaryQuadratic.Device

open Step

variable {R : Type} [Scalar R] {g : Guarded (Machine R)}

/-! ## Allocating -/

/-- Number of elements in the buffers of a worker. -/
def footprint (n batch : Nat) : Nat := n * n + n * batch + batch + 1 + batch + 1

/-- Blocks of host memory can hold each of the buffers of a worker. -/
structure Blocks (R : Type) [Scalar R] (n batch : Nat) : Prop where
  weights : n * n < 2 ^ 64 ∧ HostMemory.Fits (n * n) (Scalar.bytes R)
  bits : n * batch < 2 ^ 64 ∧ HostMemory.Fits (n * batch) (Scalar.bytes R)
  energies : HostMemory.Fits batch (Scalar.bytes R)
  minimum : HostMemory.Fits 1 (Scalar.bytes R)
  selected : HostMemory.Fits batch HostMemory.wordBytes

instance (n batch : Nat) : Decidable (Blocks R n batch) :=
  decidable_of_iff ((n * n < 2 ^ 64 ∧ HostMemory.Fits (n * n) (Scalar.bytes R)) ∧
      (n * batch < 2 ^ 64 ∧ HostMemory.Fits (n * batch) (Scalar.bytes R)) ∧ HostMemory.Fits batch (Scalar.bytes R) ∧
      HostMemory.Fits 1 (Scalar.bytes R) ∧ HostMemory.Fits batch HostMemory.wordBytes)
    ⟨fun ⟨weights, bits, energies, minimum, selected⟩ => ⟨weights, bits, energies, minimum, selected⟩,
      fun h => ⟨h.weights, h.bits, h.energies, h.minimum, h.selected⟩⟩

/-- The machine has room for the buffers of a worker, and blocks of host memory can hold them. -/
structure Machine.Accommodates (d : Machine R) (n batch : Nat) : Prop where
  room : d.HasRoom (footprint n batch)
  blocks : Blocks R n batch

/-- Lengths of the buffers of a worker, and bytes that their elements take. -/
def WorkerBuffers.sizes (R : Type) [Scalar R] (n batch : Nat) : List (Nat × Nat) :=
  [(n * n, Scalar.bytes R), (n * batch, Scalar.bytes R), (batch, Scalar.bytes R), (1, Scalar.bytes R),
    (batch, HostMemory.wordBytes), (1, HostMemory.wordBytes)]

/-- How a worker is refused: for want of memory, or with a crash, as there is room for a buffer that no block of host
memory could hold. -/
structure Machine.Denies (d : Machine R) (n batch : Nat) (ending : Halt DeviceError) : Prop where
  crowded : ¬ d.Accommodates n batch
  cause : if ending = .crash then
      ∃ size ∈ WorkerBuffers.sizes R n batch, d.HasRoom size.1 ∧ ¬ HostMemory.Fits size.1 size.2
    else ∃ needed available, ending = .error (.outOfMemory needed available)

/-- A worker is refused as one of its buffers is, after some of the others were allocated. -/
theorem Machine.Refuses.denies {d : Machine R} {buffers : List (Buffer R)} {n batch bytes length : Nat}
    {ending : Halt DeviceError} (h : (d.grown buffers).Refuses bytes length ending)
    (listed : (length, bytes) ∈ WorkerBuffers.sizes R n batch)
    (within : Buffer.total buffers + length ≤ footprint n batch)
    (fits : Blocks R n batch → HostMemory.Fits length bytes) : d.Denies n batch ending where
  crowded all := h.not_accepts ⟨Machine.hasRoom_grown (all.room.mono within), fits all.blocks⟩
  cause := by
    unfold Machine.Refuses at h
    split at h
    · next crash =>
      rw [if_pos crash]
      exact ⟨_, listed, Machine.hasRoom_of_grown h.1, h.2⟩
    · next other =>
      rw [if_neg other]
      obtain ⟨-, available, refused⟩ := h
      exact ⟨length, available, refused⟩

namespace WorkerBuffers

/-- The buffers of a worker as they are allocated. -/
def blank (R : Type) [Scalar R] (n batch : Nat) : List (Buffer R) :=
  [.reals (List.replicate (n * n) 0), .reals (List.replicate (n * batch) 0), .reals (List.replicate batch 0),
    .reals (List.replicate 1 0), .indices (List.replicate batch 0), .indices (List.replicate 1 0)]

theorem total_blank (n batch : Nat) : Buffer.total (blank R n batch) = footprint n batch := by
  simp only [blank, Buffer.total_cons, Buffer.total_nil, Buffer.length, List.length_replicate, footprint]
  omega

/-- Six buffers with consecutive numbers. -/
def numbered (first : Nat) : WorkerBuffers := ⟨⟨first⟩, ⟨first + 1⟩, ⟨first + 2⟩, ⟨first + 3⟩, ⟨first + 4⟩, ⟨first + 5⟩⟩

theorem ids_numbered (first : Nat) : (numbered first).ids = List.range' first 6 := rfl

/-- How a machine is left by buffers that were not allocated: as it was, or lost. -/
def Undone (g : Guarded (Machine R)) (ending : Halt DeviceError) (g' : Guarded (Machine R)) : Prop :=
  if ending = .crash then g'.lost = true
  else g'.Ready ∧ ∀ id, g'.device.memory.buffer? id = g.device.memory.buffer? id

/-- A request after which the buffers that were allocated before are freed, if it fails. -/
theorem orFreeAll_spec {α : Type} {step : Step DeviceError (Guarded (Machine R)) α} {buffers : List (Buffer R)}
    {ok : α → Guarded (Machine R) → Prop} {refused : Halt DeviceError → Prop} (h : g.Ready)
    (spec : Post step (g.grown buffers) ok fun ending g' =>
      refused ending ∧ if ending = .crash then g'.lost = true else g' = g.grown buffers) :
    Post (step.orCleanup (freeAll (List.range' g.device.memory.slots.size buffers.length))) (g.grown buffers) ok
      fun ending g' => refused ending ∧ Undone g ending g' := by
  rw [post_orCleanup]
  refine spec.mono (fun _ _ done => done) ?_
  intro ending g' ended
  obtain ⟨refused, left⟩ := ended
  cases ending with
  | crash => exact ⟨refused, left⟩
  | error cause =>
    obtain rfl : g' = g.grown buffers := left
    refine (Guarded.freeAll_spec (h.grown buffers) _).mono ?_ fun _ _ never => never.elim
    intro _ g' after
    obtain ⟨ready, freed⟩ := after
    refine ⟨refused, ready, fun id => ?_⟩
    rw [freed]
    show (if _ then none else (g.device.memory.pushAll buffers).buffer? id) = _
    rw [Memory.buffer?_pushAll]
    simp only [List.mem_range'_1]
    -- new numbers are empty again, as they were, and past them nothing was ever allocated
    by_cases old : id < g.device.memory.slots.size
    · rw [if_neg (by omega), if_pos old]
    · rw [if_neg old, Memory.buffer?_eq_none (Nat.le_of_not_lt old)]
      split
      · rfl
      · exact List.getElem?_eq_none (by omega)

/-- A buffer of rows is refused as any other, and also if its length is not a word. -/
theorem allocRows_spec (h : g.Ready) (buffers : List (Buffer R)) (a b : Nat) :
    Post (bufferLength a b >>= allocReals) (g.grown buffers)
      (fun buffer g' => buffer = ⟨g.device.memory.slots.size + buffers.length⟩ ∧
        g' = g.grown (buffers ++ [.reals (List.replicate (a * b) 0)]))
      fun ending g' => (¬ a * b < 2 ^ 64 ∧ ending = .error (.outOfMemory (2 ^ 64 - 1) 0) ∨
          (g.grown buffers).device.Refuses (Scalar.bytes R) (a * b) ending) ∧
        if ending = .crash then g'.lost = true else g' = g.grown buffers := by
  rw [post_bind, bufferLength]
  split
  · refine (Guarded.allocReals_spec h buffers (a * b)).mono (fun _ _ done => done) ?_
    intro ending g' ended
    obtain ⟨refused, left⟩ := ended
    exact ⟨Or.inr refused, left⟩
  · next large => exact ⟨Or.inl ⟨large, rfl⟩, rfl⟩

/-- The next six buffers are allocated, or none. -/
theorem allocate_spec (h : g.Ready) (n batch : Nat) :
    Post (allocate n batch) g
      (fun buffers g' => buffers = numbered g.device.memory.slots.size ∧ g' = g.grown (blank R n batch))
      fun ending g' => g.device.Denies n batch ending ∧ Undone g ending g' := by
  -- each request fits into the footprint along with those before it
  have denied {buffers : List (Buffer R)} {bytes length : Nat} {ending : Halt DeviceError}
      (listed : (length, bytes) ∈ sizes R n batch) (within : Buffer.total buffers + length ≤ footprint n batch)
      (fits : Blocks R n batch → HostMemory.Fits length bytes)
      (refused : (g.grown buffers).device.Refuses bytes length ending) : g.device.Denies n batch ending :=
    refused.denies listed within fits
  have rows {buffers : List (Buffer R)} {a b : Nat} {ending : Halt DeviceError}
      (listed : (a * b, Scalar.bytes R) ∈ sizes R n batch) (within : Buffer.total buffers + a * b ≤ footprint n batch)
      (fits : Blocks R n batch → a * b < 2 ^ 64 ∧ HostMemory.Fits (a * b) (Scalar.bytes R))
      (refused : ¬ a * b < 2 ^ 64 ∧ ending = .error (.outOfMemory (2 ^ 64 - 1) 0) ∨
        (g.grown buffers).device.Refuses (Scalar.bytes R) (a * b) ending) : g.device.Denies n batch ending := by
    rcases refused with ⟨large, rfl⟩ | refused
    · exact ⟨fun all => large (fits all.blocks).1, ⟨_, _, rfl⟩⟩
    · exact denied listed within (fun blocks => (fits blocks).2) refused
  rw [allocate, post_bind]
  refine (allocRows_spec h [] n n).mono ?_ ?_
  · rintro _ _ ⟨rfl, rfl⟩
    rw [post_bind]
    refine (orFreeAll_spec h (allocRows_spec h _ n batch)).mono ?_ fun _ _ left => ⟨rows (by simp [sizes])
      (by simp [Buffer.length, footprint]; omega) Blocks.bits left.1, left.2⟩
    rintro _ _ ⟨rfl, rfl⟩
    rw [post_bind]
    refine (orFreeAll_spec h (Guarded.allocReals_spec h _ batch)).mono ?_ fun _ _ left => ⟨denied (by simp [sizes])
      (by simp [Buffer.length, footprint]; omega) Blocks.energies left.1, left.2⟩
    rintro _ _ ⟨rfl, rfl⟩
    rw [post_bind]
    refine (orFreeAll_spec h (Guarded.allocReals_spec h _ 1)).mono ?_ fun _ _ left => ⟨denied (by simp [sizes])
      (by simp [Buffer.length, footprint]; omega) Blocks.minimum left.1, left.2⟩
    rintro _ _ ⟨rfl, rfl⟩
    rw [post_bind]
    refine (orFreeAll_spec h (Guarded.allocIndices_spec h _ batch)).mono ?_ fun _ _ left => ⟨denied (by simp [sizes])
      (by simp [Buffer.length, footprint]; omega) Blocks.selected left.1, left.2⟩
    rintro _ _ ⟨rfl, rfl⟩
    rw [post_bind]
    refine (orFreeAll_spec h (Guarded.allocIndices_spec h _ 1)).mono ?_ fun _ _ left => ⟨denied (by simp [sizes])
      (by simp [Buffer.length, footprint]; omega) (fun _ => by decide) left.1, left.2⟩
    rintro _ _ ⟨rfl, rfl⟩
    exact ⟨rfl, rfl⟩
  · -- before the first buffer there is none to free
    intro ending g' ended
    obtain ⟨refused, left⟩ := ended
    refine ⟨rows (by simp [sizes]) (by simp [footprint]; omega) Blocks.weights refused, ?_⟩
    cases ending with
    | crash => exact left
    | error cause =>
      obtain rfl : g' = g.grown [] := left
      exact ⟨h.grown [], fun _ => rfl⟩

end WorkerBuffers

/-! ## Creating and giving up workers -/

namespace Worker

/-- Two workers have the same size and the same buffers. -/
def Alike (w w' : Worker R) : Prop := w'.n = w.n ∧ w'.batch = w.batch ∧ w'.buffers = w.buffers

/-- The worker's buffers are all there, none of them twice, and the first holds the weights. -/
structure Owns (w : Worker R) (p : Problem R) (m : Memory R) : Prop where
  size : w.n = p.size
  nodup : w.buffers.ids.Nodup
  weights : m.HasReals w.buffers.weights p.weights.data.toList
  bits : m.RoomReals w.buffers.bits (w.batch.1.toNat * p.size)
  energies : m.RoomReals w.buffers.energies w.batch.1.toNat
  minimum : m.RoomReals w.buffers.minimum 1
  selected : m.RoomIndices w.buffers.selected w.batch.1.toNat
  count : m.RoomIndices w.buffers.count 1

variable {p : Problem R} {w : Worker R} {m m' : Memory R}

omit [Scalar R] in
theorem Owns.of_same (h : w.Owns p m) (same : ∀ id ∈ w.buffers.ids, m'.buffer? id = m.buffer? id) : w.Owns p m' := by
  simp only [WorkerBuffers.ids, List.forall_mem_cons] at same
  obtain ⟨weights, bits, energies, minimum, selected, count, -⟩ := same
  exact
    { size := h.size
      nodup := h.nodup
      weights := weights.trans h.weights
      bits := h.bits.imp fun _ held => ⟨bits.trans held.1, held.2⟩
      energies := h.energies.imp fun _ held => ⟨energies.trans held.1, held.2⟩
      minimum := h.minimum.imp fun _ held => ⟨minimum.trans held.1, held.2⟩
      selected := h.selected.imp fun _ held => ⟨selected.trans held.1, held.2⟩
      count := h.count.imp fun _ held => ⟨count.trans held.1, held.2⟩ }

omit [Scalar R] in
/-- The buffers of a worker have numbers that were given out. -/
theorem Owns.lt_size (h : w.Owns p m) {id : Nat} (own : id ∈ w.buffers.ids) : id < m.slots.size := by
  simp only [WorkerBuffers.ids, List.mem_cons, List.not_mem_nil, or_false] at own
  obtain ⟨_, bits, -⟩ := h.bits
  obtain ⟨_, energies, -⟩ := h.energies
  obtain ⟨_, minimum, -⟩ := h.minimum
  obtain ⟨_, selected, -⟩ := h.selected
  obtain ⟨_, count, -⟩ := h.count
  rcases own with rfl | rfl | rfl | rfl | rfl | rfl
  · exact Memory.lt_size_of_buffer? h.weights
  · exact Memory.lt_size_of_buffer? bits
  · exact Memory.lt_size_of_buffer? energies
  · exact Memory.lt_size_of_buffer? minimum
  · exact Memory.lt_size_of_buffer? selected
  · exact Memory.lt_size_of_buffer? count

omit [Scalar R] in
/-- Any buffer but that of the weights can be replaced by one of the same type and length. -/
theorem Owns.replace {id : Nat} {old new : Buffer R} (own : w.Owns p m) (h : m.buffer? id = some old)
    (same : Memory.SameShape old new) (other : id ≠ w.buffers.weights.id) : w.Owns p (m.replace id new) where
  size := own.size
  nodup := own.nodup
  weights := (Memory.buffer?_replace_of_ne h _ other).trans own.weights
  bits := own.bits.replace h same
  energies := own.energies.replace h same
  minimum := own.minimum.replace h same
  selected := own.selected.replace h same
  count := own.count.replace h same

theorem one_pos : (0 : UInt64) < 1 := by decide

/-- Number of indices that a worker for tiles of this size takes at a time. -/
def batchFor (tileSize : UInt64) : Count := if h : 0 < tileSize then ⟨tileSize, h⟩ else ⟨1, one_pos⟩

theorem batchFor_eq (size : Count) : batchFor size.1 = size := dif_pos size.2

omit [Scalar R] in
theorem post_acquire (held : g.lost = false) {ok : Unit → Guarded (Machine R) → Prop}
    {halt : Halt DeviceError → Guarded (Machine R) → Prop} : Post Guarded.acquire g ok halt ↔ ok () g := by
  rw [Guarded.acquire, post_bind, post_get, held, if_neg Bool.false_ne_true, post_pure]

/-- The memory with the buffers of a new worker, the weights written to the first. -/
def equip (m : Memory R) (p : Problem R) (batch : Nat) : Memory R :=
  (m.pushAll (WorkerBuffers.blank R p.size batch)).replace m.slots.size (.reals p.weights.data.toList)

theorem hasReals_first (m : Memory R) (p : Problem R) (batch : Nat) :
    (m.pushAll (WorkerBuffers.blank R p.size batch)).HasReals ⟨m.slots.size⟩ (List.replicate (p.size * p.size) 0) :=
  Memory.buffer?_pushAll_add m (WorkerBuffers.blank R p.size batch) 0

theorem buffer?_equip_add (m : Memory R) (p : Problem R) (batch k : Nat) :
    (equip m p batch).buffer? (m.slots.size + (k + 1)) = (WorkerBuffers.blank R p.size batch)[k + 1]? := by
  rw [equip, Memory.buffer?_replace_of_ne (hasReals_first m p batch) _ (by show m.slots.size ≠ _; omega),
    Memory.buffer?_pushAll_add]

theorem buffer?_equip_of_lt (m : Memory R) (p : Problem R) (batch : Nat) {id : Nat} (h : id < m.slots.size) :
    (equip m p batch).buffer? id = m.buffer? id := by
  rw [equip, Memory.buffer?_replace_of_ne (hasReals_first m p batch) _ (by show m.slots.size ≠ _; omega),
    Memory.buffer?_pushAll_of_lt _ _ h]

omit [Scalar R] in
theorem length_weights (p : Problem R) : p.weights.data.toList.length = p.size * p.size := by
  rw [Array.length_toList, p.weights.size_data, ← p.square]
  rfl

theorem owns_equip (m : Memory R) (p : Problem R) (batch : Count) (best : Incumbent R) :
    Owns ⟨p.size, batch, WorkerBuffers.numbered m.slots.size, best⟩ p (equip m p batch.1.toNat) := by
  have other := buffer?_equip_add m p batch.1.toNat
  refine ⟨rfl, ?_, Memory.buffer?_replace_self (hasReals_first m p batch.1.toNat) _, ⟨_, other 0, ?_⟩,
    ⟨_, other 1, ?_⟩, ⟨_, other 2, ?_⟩, ⟨_, other 3, ?_⟩, ⟨_, other 4, ?_⟩⟩
  · rw [WorkerBuffers.ids_numbered]
    exact List.nodup_range'
  · exact Nat.le_of_eq (by rw [List.length_replicate, Nat.mul_comm])
  · exact Nat.le_of_eq List.length_replicate.symm
  · exact Nat.le_refl _
  · exact Nat.le_of_eq List.length_replicate.symm
  · exact Nat.le_refl _

/-- A new worker owns the next six buffers, and finds its weights in the first. -/
theorem create_spec (h : g.Ready) (tileSize : UInt64) :
    Post (create p.weights tileSize) g
      (fun w g' => w = ⟨p.size, batchFor tileSize, WorkerBuffers.numbered g.device.memory.slots.size, .empty⟩ ∧
        g' = (g.grown (WorkerBuffers.blank R p.size (batchFor tileSize).1.toNat)).loaded
          (equip g.device.memory p (batchFor tileSize).1.toNat) [])
      fun ending g' => g.device.Denies p.size (batchFor tileSize).1.toNat ending ∧
        WorkerBuffers.Undone g ending g' := by
  rw [create, post_bind, post_acquire h.held, post_bind]
  refine (WorkerBuffers.allocate_spec h p.size (batchFor tileSize).1.toNat).mono ?_ fun _ _ refused => refused
  rintro _ _ ⟨rfl, rfl⟩
  generalize (batchFor tileSize).1.toNat = batch
  have ready := h.grown (WorkerBuffers.blank R p.size batch)
  -- the copy is queued, and done when the machine is waited for
  have uploaded : Post (do
      copy (WorkerBuffers.numbered g.device.memory.slots.size).weights p.weights.data.toList
      synchronize : Step DeviceError (Guarded (Machine R)) Unit) (g.grown (WorkerBuffers.blank R p.size batch))
      (fun _ g' => g' = (g.grown (WorkerBuffers.blank R p.size batch)).loaded (equip g.device.memory p batch) [])
      fun _ _ => False := by
    have length : p.weights.data.toList.length = (List.replicate (p.size * p.size) (0 : R)).length := by
      rw [length_weights, List.length_replicate]
    rw [← ready.loaded_self, post_bind, Guarded.post_copy ready.alive]
    refine Guarded.post_synchronize ready.alive ?_
    show Post (Command.runAll [.copy _ _]) _ _ _
    rw [Command.runAll, post_bind]
    refine (post_copy (hasReals_first g.device.memory p batch) (Nat.le_of_eq length)).2 ?_
    show _ = Guarded.loaded _ _ _
    rw [Memory.overwrite_of_length length]
    rfl
  rw [post_bind, post_orCleanup]
  refine uploaded.mono ?_ fun _ _ never => never.elim
  rintro _ _ rfl
  exact ⟨rfl, rfl⟩

/-- Giving up a worker frees its buffers and no others. -/
theorem discard_spec (h : g.Ready) :
    Post w.discard g
      (fun _ g' => g'.Ready ∧ ∀ id, g'.device.memory.buffer? id =
        if id ∈ w.buffers.ids then none else g.device.memory.buffer? id)
      fun _ _ => False := by
  rw [Worker.discard, post_bind, post_get, h.held, if_neg Bool.false_ne_true]
  exact Guarded.freeAll_spec h _

end Worker

end BinaryQuadratic.Device
