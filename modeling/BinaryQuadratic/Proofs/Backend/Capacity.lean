import BinaryQuadratic.Proofs.Backend.DeviceLedger

/-!
# Pools and the capacity of a device

A machine that was not lost keeps books of its buffers, and they never take more than its capacity. So a pool that was
made fits into the capacity; and on a machine without buffers, a pool that fits is made, and any other is refused for
want of memory (`createPool_cases`). This takes a host whose memory is not the first to run out: whatever the capacity
leaves room for, a block of host memory must be able to hold.
-/

namespace BinaryQuadratic

open Step

namespace Device

variable {R : Type} [Scalar R]

/-! ## Books of a machine -/

namespace Machine

/-- No request changes the capacity. -/
theorem keeps_capacity (capacity : Option Nat) {kind : Kind} (request : Request R kind) :
    Keeps (fun d : Machine R => d.capacity = capacity) (perform request) := by
  have alive : Keeps (fun d : Machine R => d.capacity = capacity) checkAlive :=
    .get_bind fun _ _ => .ite (.fail _) (.pure _)
  have allocate (make : Nat → Buffer R) (bytes length : Nat) :
      Keeps (fun d : Machine R => d.capacity = capacity) (allocate make bytes length) := by
    refine alive.bind fun _ => Keeps.bind (.get_bind fun d _ => ?_) fun _ => .get_bind fun d same => .ite ?_ ?_
    · cases d.room with
      | none => exact .pure _
      | some available => exact .ite (.fail _) (.pure _)
    · exact fun _ _ => same
    · exact fun _ _ => same
  have enqueue (command : Command R) : Keeps (fun d : Machine R => d.capacity = capacity) (enqueue command) :=
    alive.bind fun _ => .modify fun _ same => same
  have read {α : Type} (reader : Step DeviceError (Memory R) α) :
      Keeps (fun d : Machine R => d.capacity = capacity) (read reader) := by
    refine alive.bind fun _ => Keeps.bind (.get_bind fun _ _ => .ite (.pure _) (.fail _)) fun _ d same => ?_
    unfold Post
    dsimp only
    cases reader d.memory <;> exact same
  cases request with
  | allocReals length => exact (allocate _ _ length).bind fun _ => .pure _
  | allocIndices length => exact (allocate _ _ length).bind fun _ => .pure _
  | free id =>
    refine .get_bind fun d same => ?_
    cases d.memory.buffer? id with
    | none => exact .fail _
    | some buffer => exact fun _ _ => same
  | copy target data => exact enqueue _
  | launch kernel => exact enqueue _
  | synchronize =>
    refine alive.bind fun _ d same => ?_
    unfold Post drain
    cases Command.runAll d.queue d.memory <;> exact same
  | readReals source length => exact read _
  | readIndices source length => exact read _

/-- These are the books of the machine, unless it was lost. -/
def Balanced (entries : List (Nat × Nat)) (g : Guarded (Machine R)) : Prop := g.lost = true ∨ g.device.Books entries

omit [Scalar R] in
theorem Balanced.books {entries : List (Nat × Nat)} {g : Guarded (Machine R)} (h : Balanced entries g) (ready : g.Ready) :
    g.device.Books entries := h.resolve_left fun lost => Bool.false_ne_true (ready.held.symm.trans lost)

end Machine

namespace Guarded

/-- What requests keep of the machine, they keep of the shared one. -/
theorem keeps_machine {inv : Machine R → Prop} {kind : Kind} {request : Request R kind}
    (h : Keeps inv (Machine.perform request)) :
    Keeps (fun g : Guarded (Machine R) => inv g.device) (Provider.perform request) := fun g holds =>
  post_perform.2 ((h g.device holds).mono (fun _ _ holds => holds) fun ending _ holds => by cases ending <;> exact holds)

/-- A machine that was lost stays lost. -/
theorem keeps_lost {kind : Kind} (request : Request R kind) :
    Keeps (fun g : Guarded (Machine R) => g.lost = true) (Provider.perform request) := fun g lost => by
  refine post_perform.2 ?_
  unfold Post
  cases Machine.perform request g.device with
  | ok a d => exact lost
  | error ending d => cases ending with
    | error cause => exact lost
    | crash => rfl

end Guarded

namespace Machine

/-- A machine keeps books until it is lost. -/
theorem accounting : Accounting (P := Machine R) (fun g => g.lost = true) Balanced where
  of_excused _ lost := Or.inl lost
  excused_of_lost _ lost := lost
  abandon _ := rfl
  perm held same := held.imp_right fun books => books.perm same
  keeps_excused := Guarded.keeps_lost
  perform {kind} request {g entries} entered listed := by
    rcases entered with lost | books
    · refine (Guarded.keeps_lost request g lost).mono (fun _ _ lost => ⟨Or.inl lost, Or.inl lost⟩) fun _ _ lost => ?_
      split
      · exact lost
      · exact Or.inl lost
    · refine Guarded.post_perform.2 ((books_perform request books listed).mono ?_ ?_)
      · rintro a d ⟨entered, answered⟩
        exact ⟨Or.inr entered, Or.inr answered⟩
      · intro ending d left
        cases ending with
        | error cause =>
          obtain ⟨books, frees⟩ := left nofun
          rw [frees]
          exact Or.inr books
        | crash => exact rfl

/-- The capacity stays the same, whatever is entered in the books. -/
theorem accounting_capacity (capacity : Option Nat) :
    Accounting (P := Machine R) (fun g => g.device.capacity = capacity)
      (Unbooked fun g => g.device.capacity = capacity) :=
  .of_keeps (fun request => Guarded.keeps_machine (keeps_capacity capacity request)) fun same => same

end Machine

/-! ## Workers that fit -/

/-- A block of host memory can hold each of the buffers of a worker, as far as there is room for it. -/
def Storable (R : Type) [Scalar R] (capacity n batch : Nat) : Prop :=
  ∀ size ∈ WorkerBuffers.sizes R n batch, size.1 ≤ capacity → HostMemory.Fits size.1 size.2

instance (capacity n batch : Nat) : Decidable (Storable R capacity n batch) :=
  inferInstanceAs (Decidable (∀ size ∈ WorkerBuffers.sizes R n batch, size.1 ≤ capacity → HostMemory.Fits size.1 size.2))

theorem Storable.blocks {capacity n batch : Nat} (h : Storable R capacity n batch) (word : capacity < 2 ^ 64)
    (enough : footprint n batch ≤ capacity) : Blocks R n batch := by
  simp only [Storable, WorkerBuffers.sizes, List.forall_mem_cons] at h
  obtain ⟨weights, bits, energies, minimum, selected, -, -⟩ := h
  unfold footprint at enough
  exact ⟨⟨by omega, weights (by omega)⟩, ⟨by omega, bits (by omega)⟩, energies (by omega), minimum (by omega),
    selected (by omega)⟩

namespace Machine

variable {d : Machine R} {capacity n batch : Nat}

omit [Scalar R] in
theorem HasRoom.le_capacity (limited : d.capacity = some capacity) {length : Nat} (h : d.HasRoom length) :
    length ≤ capacity := by
  have enough := h (capacity - d.allocated) (by rw [room, limited]; rfl)
  omega

/-- Where host memory is not the first to run out, a worker is refused for want of room only. -/
theorem Denies.outOfMemory {ending : Halt DeviceError} (h : d.Denies n batch ending)
    (limited : d.capacity = some capacity) (word : capacity < 2 ^ 64) (storable : Storable R capacity n batch) :
    ¬ d.HasRoom (footprint n batch) ∧ ∃ needed available, ending = .error (.outOfMemory needed available) := by
  refine ⟨fun room => h.crowded ⟨room, storable.blocks word (room.le_capacity limited)⟩, ?_⟩
  have cause := h.cause
  split at cause
  · obtain ⟨size, listed, room, large⟩ := cause
    exact absurd (storable size listed (room.le_capacity limited)) large
  · exact cause

end Machine

end Device

namespace SharedDevice

open Device

variable {R : Type} [Scalar R] {p : Problem R} {b : SharedDevice (Machine R)} {pool made : List (Worker R)}
  {capacity : Nat} {tileSize : UInt64} {weights : Matrix R}

/-! ## Pools that fit -/

omit [Scalar R] in
/-- What the buffers of a pool take. -/
theorem total_entries (fitting : ∀ worker ∈ pool, Fitting weights tileSize worker) :
    total (pool.flatMap Worker.entries) = pool.length * footprint weights.rows (Worker.batchFor tileSize).1.toNat := by
  induction pool with
  | nil => simp
  | cons worker pool ih =>
    rw [List.forall_mem_cons] at fitting
    obtain ⟨⟨size, batch⟩, others⟩ := fitting
    have first : total worker.entries = footprint weights.rows (Worker.batchFor tileSize).1.toNat := by
      rw [Worker.entries, WorkerBuffers.total_entries, size, batch]
    rw [List.flatMap_cons, total_append, first, ih others, List.length_cons, Nat.succ_mul, Nat.add_comm]

/-- The capacity is never changed. -/
theorem keeps_capacity (capacity : Option Nat) :
    Backend.Keeps fun b : SharedDevice (Machine R) => b.device.device.capacity = capacity :=
  keeps_excused (Machine.accounting_capacity capacity)

/-- The workers can all be given up. -/
theorem discardAll_equipped (h : Equipped p b.device pool) :
    Post (Backend.discardAll pool) b (fun _ b' => Equipped p b'.device []) fun _ _ => False := by
  induction pool generalizing b with
  | nil => exact h
  | cons worker pool ih =>
    rw [Backend.discardAll, post_bind]
    refine post_onDevice.2 ((discard_spec h).mono ?_ fun _ _ never => never)
    intro _ g rest
    exact ih rest

/-- Workers join the pool, or all are given up when there is no room for all of them. -/
theorem createMore_cases (k : Nat) (h : Equipped p b.device made) (limited : b.device.device.capacity = some capacity)
    (word : capacity < 2 ^ 64) (storable : Storable R capacity p.size (Worker.batchFor tileSize).1.toNat) :
    Post (Backend.createMore p.weights tileSize k made) b (fun pool b' => Equipped p b'.device pool)
      fun ending b' => Equipped p b'.device [] ∧
        ¬ b.device.device.HasRoom (k * footprint p.size (Worker.batchFor tileSize).1.toNat) ∧
        ∃ needed available, ending = .error (.device (.outOfMemory needed available)) := by
  induction k generalizing b made with
  | zero => exact h
  | succ k ih =>
    rw [Backend.createMore, post_bind, post_orCleanup]
    refine post_onDevice.2 ((Worker.create_spec h.ready tileSize).mono ?_ ?_)
    · rintro _ _ ⟨rfl, rfl⟩
      have joined := h.join (Worker.batchFor tileSize)
      refine (ih (b := { b with device := _ }) joined limited).mono (fun _ _ all => all) ?_
      rintro ending b' ⟨none, crowded, cause⟩
      refine ⟨none, fun room => crowded ?_, cause⟩
      -- what is left after the first worker is the room for the others
      rw [Nat.succ_mul, Nat.add_comm] at room
      refine Guarded.hasRoom_loaded.2 (Machine.hasRoom_grown ?_)
      rw [WorkerBuffers.total_blank]
      exact room
    · rintro ending g' ⟨denied, left⟩
      obtain ⟨crowded, needed, available, rfl⟩ := denied.outOfMemory limited word storable
      obtain ⟨ready, same⟩ := left
      have kept : Equipped p g' made := ⟨ready, fun w hw => (h.owns w hw).of_same fun id _ => same id, h.nodup⟩
      refine (discardAll_equipped (b := { b with device := g' }) kept).mono ?_ fun _ _ never => never.elim
      intro _ b' none
      refine ⟨none, fun room => crowded (room.mono ?_), needed, available, rfl⟩
      rw [Nat.succ_mul]
      exact Nat.le_add_left _ _

/-- On a machine without buffers, a pool is only refused if it does not fit into the capacity. -/
theorem createPool_cases {count : Count} (h : Equipped p b.device []) (empty : b.device.device.Books [])
    (limited : b.device.device.capacity = some capacity) (word : capacity < 2 ^ 64)
    (storable : Storable R capacity p.size (Worker.batchFor tileSize).1.toNat)
    (host : HostMemory.Fits count.1.toNat (Backend.workerBytes (SharedDevice (Machine R)))) :
    Post (Backend.createPool p.weights tileSize count) b (fun pool b' => Equipped p b'.device pool)
      fun ending b' => Equipped p b'.device [] ∧
        capacity < count.1.toNat * footprint p.size (Worker.batchFor tileSize).1.toNat ∧
        ∃ needed available, ending = .error (.device (.outOfMemory needed available)) := by
  rw [Backend.createPool, post_bind, post_reserve, if_pos host]
  refine (createMore_cases count.1.toNat h limited word storable).mono (fun _ _ all => all) ?_
  rintro ending b' ⟨none, crowded, cause⟩
  refine ⟨none, Nat.lt_of_not_le fun enough => crowded fun available room => ?_, cause⟩
  rw [Machine.room, limited, empty.allocated] at room
  obtain rfl := Option.some.inj room
  exact enough

end SharedDevice

end BinaryQuadratic
