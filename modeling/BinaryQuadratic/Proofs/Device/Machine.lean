import BinaryQuadratic.Device.Machine
import BinaryQuadratic.Device.Worker
import BinaryQuadratic.Proofs.Device.Memory

/-!
# Requests to a machine

What holds after each request to a device in host memory that is shared and was not lost. Allocating is refused only
without room, and crashes only where no block of host memory could hold the buffer (`Accepts`); everything else
succeeds as long as its operands are there.
-/

namespace BinaryQuadratic.Device

open Step

variable {R : Type} [Scalar R]

/-! ## Machines -/

namespace Machine

/-- There is room for this many more elements. -/
def HasRoom (d : Machine R) (length : Nat) : Prop := ∀ available, d.room = some available → length ≤ available

/-- A buffer of this length can be allocated, with elements of this many bytes. -/
def Accepts (d : Machine R) (bytes length : Nat) : Prop := d.HasRoom length ∧ HostMemory.Fits length bytes

/-- How a buffer of this length is refused: as there is no room for it, or with a crash, as there is room and no block of
host memory could hold it. -/
def Refuses (d : Machine R) (bytes length : Nat) (ending : Halt DeviceError) : Prop :=
  if ending = .crash then d.HasRoom length ∧ ¬ HostMemory.Fits length bytes
  else ¬ d.HasRoom length ∧ ∃ available, ending = .error (.outOfMemory length available)

omit [Scalar R] in
/-- What can be allocated is not refused. -/
theorem Refuses.not_accepts {d : Machine R} {bytes length : Nat} {ending : Halt DeviceError}
    (h : d.Refuses bytes length ending) : ¬ d.Accepts bytes length := by
  unfold Refuses at h
  split at h
  · exact fun accepted => h.2 accepted.2
  · exact fun accepted => h.1 accepted.1

omit [Scalar R] in
/-- Within the room there is, what is allocated stays within the capacity. -/
theorem HasRoom.add_le {d : Machine R} {length limit : Nat} (h : d.HasRoom length) (limited : d.capacity = some limit)
    (within : d.allocated ≤ limit) : d.allocated + length ≤ limit := by
  have enough := h (limit - d.allocated) (by rw [room, limited]; rfl)
  omega

omit [Scalar R] in
theorem HasRoom.mono {d : Machine R} {length length' : Nat} (h : d.HasRoom length) (short : length' ≤ length) :
    d.HasRoom length' := fun available limit => Nat.le_trans short (h available limit)

omit [Scalar R] in
theorem post_checkAlive {d : Machine R} (alive : d.poisoned = false) {ok : Unit → Machine R → Prop}
    {halt : Halt DeviceError → Machine R → Prop} : Post checkAlive d ok halt ↔ ok () d := by
  rw [checkAlive, post_bind, post_get, alive, if_neg Bool.false_ne_true, post_pure]

omit [Scalar R] in
theorem post_checkAlive_of {d : Machine R} {ok : Unit → Machine R → Prop} {halt : Halt DeviceError → Machine R → Prop}
    (alive : d.poisoned = false → ok () d) (gone : ∀ cause, d.poisoned = true → halt (.error cause) d) :
    Post checkAlive d ok halt := by
  rw [checkAlive, post_bind, post_get]
  cases state : d.poisoned with
  | false => exact alive state
  | true => exact gone _ state

omit [Scalar R] in
theorem post_checkRoom {d : Machine R} {length : Nat} {ok : Unit → Machine R → Prop}
    {halt : Halt DeviceError → Machine R → Prop} (room : d.HasRoom length → ok () d)
    (full : ∀ available, ¬ d.HasRoom length → halt (.error (.outOfMemory length available)) d) :
    Post (checkRoom length) d ok halt := by
  rw [checkRoom, post_bind, post_get]
  cases limit : d.room with
  | none => exact room fun available same => nomatch limit.symm.trans same
  | some available =>
    show Post (if available < length then Step.fail (.outOfMemory length available) else pure () :
      Step DeviceError (Machine R) Unit) d _ _
    split
    · next short =>
      refine full _ fun enough => ?_
      have := enough available limit
      omega
    · next enough =>
      refine room fun available' same => ?_
      obtain rfl := Option.some.inj (limit.symm.trans same)
      omega

omit [Scalar R] in
theorem allocate_spec {d : Machine R} (alive : d.poisoned = false) (make : Nat → Buffer R) (bytes length : Nat) :
    Post (allocate make bytes length) d
      (fun id d' => id = d.memory.slots.size ∧
        d' = { d with memory := d.memory.push (make length), allocated := d.allocated + length })
      fun ending d' => d.Refuses bytes length ending ∧ (ending ≠ .crash → d' = d) := by
  rw [allocate, post_bind, post_checkAlive alive, post_bind]
  refine post_checkRoom (fun room => ?_) fun available full => ⟨⟨full, available, rfl⟩, fun _ => rfl⟩
  rw [post_bind, post_get]
  dsimp only
  split
  · exact ⟨rfl, rfl⟩
  · next large => exact ⟨⟨room, large⟩, fun other => absurd rfl other⟩

/-- The machine with further buffers. -/
def grown (d : Machine R) (buffers : List (Buffer R)) : Machine R :=
  { d with memory := d.memory.pushAll buffers, allocated := d.allocated + Buffer.total buffers }

omit [Scalar R] in
theorem grown_append (d : Machine R) (buffers : List (Buffer R)) (buffer : Buffer R) :
    d.grown (buffers ++ [buffer]) =
      { d.grown buffers with
        memory := (d.grown buffers).memory.push buffer
        allocated := (d.grown buffers).allocated + buffer.length } := by
  rw [grown, grown, Memory.pushAll_append, Buffer.total_append, Buffer.total_cons, Buffer.total_nil, Nat.add_zero,
    ← Nat.add_assoc]

omit [Scalar R] in
/-- What is left of the room when further buffers were allocated. -/
theorem hasRoom_grown {d : Machine R} {buffers : List (Buffer R)} {length : Nat}
    (h : d.HasRoom (Buffer.total buffers + length)) : (d.grown buffers).HasRoom length := by
  intro available limit
  simp only [room, grown, Option.map_eq_some_iff] at limit
  obtain ⟨capacity, limited, rfl⟩ := limit
  have enough := h (capacity - d.allocated) (by rw [room, limited]; rfl)
  omega

omit [Scalar R] in
/-- There was as much room before further buffers were allocated. -/
theorem hasRoom_of_grown {d : Machine R} {buffers : List (Buffer R)} {length : Nat}
    (h : (d.grown buffers).HasRoom length) : d.HasRoom length := by
  intro available limit
  obtain ⟨capacity, limited, rfl⟩ := Option.map_eq_some_iff.1 limit
  have enough := h (capacity - (d.allocated + Buffer.total buffers)) (by
    show d.capacity.map _ = _
    rw [limited]
    rfl)
  omega

omit [Scalar R] in
theorem read_eq {α : Type} {reader : Step DeviceError (Memory R) α} {d : Machine R} (alive : d.poisoned = false)
    (idle : d.queue = []) :
    read reader d =
      match reader d.memory with
      | .ok a _ => .ok a d
      | .error halt _ => .error halt d := by
  obtain ⟨memory, queue, allocated, capacity, poisoned⟩ := d
  cases alive
  cases idle
  rfl

end Machine

/-! ## Shared machines -/

namespace Guarded

variable {g : Guarded (Machine R)}

/-- The machine can be used, and nothing is waiting in its queue. -/
structure Ready (g : Guarded (Machine R)) : Prop where
  held : g.lost = false
  alive : g.device.poisoned = false
  idle : g.device.queue = []

/-- The machine with other memory and another queue. -/
def loaded (g : Guarded (Machine R)) (memory : Memory R) (queue : List (Command R)) : Guarded (Machine R) :=
  { g with device := { g.device with memory := memory, queue := queue } }

/-- The machine with further buffers. -/
def grown (g : Guarded (Machine R)) (buffers : List (Buffer R)) : Guarded (Machine R) :=
  { g with device := g.device.grown buffers }

omit [Scalar R] in
theorem Ready.loaded (h : g.Ready) (memory : Memory R) : (g.loaded memory []).Ready := ⟨h.held, h.alive, rfl⟩

omit [Scalar R] in
theorem Ready.loaded_self (h : g.Ready) : g.loaded g.device.memory [] = g := by
  rw [Guarded.loaded, ← h.idle]

omit [Scalar R] in
theorem Ready.grown (h : g.Ready) (buffers : List (Buffer R)) : (g.grown buffers).Ready := ⟨h.held, h.alive, h.idle⟩

/-- A request, by what the machine answers. -/
theorem post_perform {kind : Kind} {request : Request R kind} {ok : kind.Answer R → Guarded (Machine R) → Prop}
    {halt : Halt DeviceError → Guarded (Machine R) → Prop} :
    Post (Provider.perform request) g ok halt ↔
      Post (Machine.perform request) g.device (fun a d => ok a { g with device := d }) fun ending d =>
        match ending with
        | .error cause => halt (.error cause) { g with device := d }
        | .crash => halt .crash { device := d, lost := true } := by
  unfold Post
  simp only [Provider.perform, Guarded.perform]
  cases Machine.perform request g.device with
  | ok answer device => rfl
  | error ending device => cases ending <;> rfl

variable {memory : Memory R} {queue : List (Command R)}

omit [Scalar R] in
theorem hasRoom_loaded {length : Nat} : (g.loaded memory queue).device.HasRoom length ↔ g.device.HasRoom length := by
  rfl

section Alive

variable (alive : g.device.poisoned = false)
include alive

/-! ### Commands -/

omit [Scalar R] in
theorem post_enqueue {command : Command R} {ok : Unit → Machine R → Prop} {halt : Halt DeviceError → Machine R → Prop} :
    Post (Machine.enqueue command) (g.loaded memory queue).device ok halt ↔
      ok () (g.loaded memory (queue ++ [command])).device := by
  rw [Machine.enqueue, post_bind, Machine.post_checkAlive (d := (g.loaded memory queue).device) alive, post_modify]
  rfl

theorem post_copy {target : RealHandle} {data : List R} {ok : Unit → Guarded (Machine R) → Prop}
    {halt : Halt DeviceError → Guarded (Machine R) → Prop} :
    Post (copy target data) (g.loaded memory queue) ok halt ↔
      ok () (g.loaded memory (queue ++ [.copy target data])) := by
  rw [copy, post_perform, Machine.perform, post_enqueue alive]
  rfl

theorem post_launch {kernel : Kernel R} {ok : Unit → Guarded (Machine R) → Prop}
    {halt : Halt DeviceError → Guarded (Machine R) → Prop} :
    Post (launch kernel) (g.loaded memory queue) ok halt ↔
      ok () (g.loaded memory (queue ++ [.launch kernel])) := by
  rw [launch, post_perform, Machine.perform, post_enqueue alive]
  rfl

/-- Commands that succeed leave an empty queue, and what they did to the memory. -/
theorem post_synchronize {ok : Unit → Guarded (Machine R) → Prop} {halt : Halt DeviceError → Guarded (Machine R) → Prop}
    (run : Post (Command.runAll queue) memory (fun _ memory' => ok () (g.loaded memory' [])) fun _ _ => False) :
    Post synchronize (g.loaded memory queue) ok halt := by
  obtain ⟨_, memory', done, after⟩ := run.exists_ok
  rw [synchronize, post_perform, Machine.perform, post_bind,
    Machine.post_checkAlive (d := (g.loaded memory queue).device) alive]
  have drained : Machine.drain (g.loaded memory queue).device =
      .ok () { g.device with memory := memory', queue := [] } := by
    rw [Machine.drain, show Command.runAll (g.loaded memory queue).device.queue (g.loaded memory queue).device.memory =
      .ok () memory' from done]
    rfl
  exact post_of_eq_ok drained after

/-! ### Reading -/

omit [Scalar R] in
theorem post_read {α : Type} {reader : Step DeviceError (Memory R) α} {a : α} {ok : α → Machine R → Prop}
    {halt : Halt DeviceError → Machine R → Prop}
    (read : Post reader memory (fun b _ => b = a) fun _ _ => False) :
    Post (Machine.read reader) (g.loaded memory []).device ok halt ↔ ok a (g.loaded memory []).device := by
  obtain ⟨b, memory', done, rfl⟩ := read.exists_ok
  have result : Machine.read reader (g.loaded memory []).device = .ok b (g.loaded memory []).device := by
    refine (Machine.read_eq (d := (g.loaded memory []).device) alive rfl).trans ?_
    show (match reader memory with
      | .ok a _ => .ok a _
      | .error halt _ => .error halt _ : EStateM.Result (Halt DeviceError) (Machine R) α) = _
    rw [done]
  unfold Post
  rw [result]

theorem post_readReals {source : RealHandle} {values : List R} {length : Nat}
    {ok : List R → Guarded (Machine R) → Prop} {halt : Halt DeviceError → Guarded (Machine R) → Prop}
    (h : memory.HasReals source values) (enough : length ≤ values.length) :
    Post (readReals source length) (g.loaded memory []) ok halt ↔ ok (values.take length) (g.loaded memory []) := by
  rw [readReals, post_perform, Machine.perform, post_read alive ((Memory.post_readReals h enough).2 rfl)]

theorem post_readIndices {source : IndexHandle} {values : List Index} {length : Nat}
    {ok : List Index → Guarded (Machine R) → Prop} {halt : Halt DeviceError → Guarded (Machine R) → Prop}
    (h : memory.HasIndices source values) (enough : length ≤ values.length) :
    Post (readIndices source length) (g.loaded memory []) ok halt ↔ ok (values.take length) (g.loaded memory []) := by
  rw [readIndices, post_perform, Machine.perform, post_read alive ((Memory.post_readIndices h enough).2 rfl)]

end Alive

/-! ### Allocating and freeing -/

section Allocating

variable (h : g.Ready)
include h

/-- A request for a buffer gives it the next number, or is refused and leaves the machine as it is, or loses it. -/
theorem allocate_spec {kind : Kind} {request : Request R kind} {wrap : Nat → kind.Answer R} (make : Nat → Buffer R)
    {bytes length : Nat} (buffers : List (Buffer R)) (measured : (make length).length = length)
    (form : Machine.perform request = do return wrap (← Machine.allocate make bytes length)) :
    Post (Provider.perform request) (g.grown buffers)
      (fun a g' => a = wrap (g.device.memory.slots.size + buffers.length) ∧ g' = g.grown (buffers ++ [make length]))
      fun ending g' => (g.grown buffers).device.Refuses bytes length ending ∧
        if ending = .crash then g'.lost = true else g' = g.grown buffers := by
  rw [post_perform, form, post_bind]
  refine (Machine.allocate_spec (d := (g.grown buffers).device) h.alive make bytes length).mono ?_ ?_
  · rintro _ _ ⟨rfl, rfl⟩
    rw [post_pure]
    refine ⟨congrArg wrap (Memory.size_pushAll _ _), ?_⟩
    rw [grown, grown, Machine.grown_append, measured]
  · intro ending d left
    obtain ⟨refused, same⟩ := left
    cases ending with
    | error cause =>
      rw [same (by intro crash; nomatch crash)]
      exact ⟨refused, rfl⟩
    | crash => exact ⟨refused, rfl⟩

theorem allocReals_spec (buffers : List (Buffer R)) (length : Nat) :
    Post (allocReals length) (g.grown buffers)
      (fun buffer g' => buffer = ⟨g.device.memory.slots.size + buffers.length⟩ ∧
        g' = g.grown (buffers ++ [.reals (List.replicate length 0)]))
      fun ending g' => (g.grown buffers).device.Refuses (Scalar.bytes R) length ending ∧
        if ending = .crash then g'.lost = true else g' = g.grown buffers :=
  allocate_spec h (fun k => .reals (List.replicate k 0)) buffers List.length_replicate rfl

theorem allocIndices_spec (buffers : List (Buffer R)) (length : Nat) :
    Post (allocIndices length) (g.grown buffers)
      (fun buffer g' => buffer = ⟨g.device.memory.slots.size + buffers.length⟩ ∧
        g' = g.grown (buffers ++ [.indices (List.replicate length 0)]))
      fun ending g' => (g.grown buffers).device.Refuses HostMemory.wordBytes length ending ∧
        if ending = .crash then g'.lost = true else g' = g.grown buffers :=
  allocate_spec h (fun k => .indices (List.replicate k 0)) buffers List.length_replicate rfl

/-- Freeing a buffer empties its place, if it is not empty already. -/
theorem free_spec (id : Nat) :
    Post (free id).ignoreError g
      (fun _ g' => g'.Ready ∧
        ∀ other, g'.device.memory.buffer? other = if id = other then none else g.device.memory.buffer? other)
      fun _ _ => False := by
  rw [post_ignoreError, free, post_perform, Machine.perform, Machine.release, post_bind, post_get]
  cases held : g.device.memory.buffer? id with
  | some buffer => exact ⟨⟨h.held, h.alive, h.idle⟩, fun other => Memory.buffer?_remove _ _ _⟩
  | none =>
    refine ⟨h, fun other => ?_⟩
    split
    · next same => rw [← same, held]
    · rfl

end Allocating

/-- Freeing several buffers. -/
theorem freeAll_spec (h : g.Ready) (ids : List Nat) :
    Post (freeAll ids) g
      (fun _ g' => g'.Ready ∧
        ∀ other, g'.device.memory.buffer? other = if other ∈ ids then none else g.device.memory.buffer? other)
      fun _ _ => False := by
  induction ids generalizing g with
  | nil => exact ⟨h, fun _ => rfl⟩
  | cons id ids ih =>
    rw [freeAll, post_bind]
    refine (free_spec h id).mono ?_ fun _ _ never => never
    intro _ g' after
    obtain ⟨ready, freed⟩ := after
    refine (ih ready).mono ?_ fun _ _ never => never
    intro _ g'' after
    obtain ⟨ready', rest⟩ := after
    refine ⟨ready', fun other => ?_⟩
    rw [rest, freed]
    by_cases same : id = other
    · rw [if_pos same, if_pos (List.mem_cons.2 (Or.inl same.symm)), ite_self]
    · by_cases among : other ∈ ids
      · rw [if_pos among, if_pos (List.mem_cons_of_mem _ among)]
      · have outside : other ∉ id :: ids := fun within =>
          (List.mem_cons.1 within).elim (fun eq => same eq.symm) among
        rw [if_neg among, if_neg same, if_neg outside]

end Guarded

end BinaryQuadratic.Device
