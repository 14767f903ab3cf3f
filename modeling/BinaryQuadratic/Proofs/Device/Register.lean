import BinaryQuadratic.Proofs.Device.Books
import BinaryQuadratic.Proofs.Format.Precision

/-!
# The register of a machine

Whoever makes requests to a machine can keep a register of its answers: the numbers it gave out, the buffers that were
allocated and not freed, and the elements of buffers that no block of host memory could hold. The machine agrees with
the register after any requests, however they end (`Logged.register_exact`): a request sees to the buffer that it
allocates or frees, and to no other, and commands put back every buffer that they detached, also when they fail.
-/

namespace BinaryQuadratic.Device

open Step

variable {R : Type}

/-! ## Elements in memory -/

/-- A buffer that is taken out of its place leaves the others. -/
theorem Buffer.total_set_none {slots : List (Option (Buffer R))} {place : Nat} {buffer : Buffer R}
    (h : slots[place]? = some (some buffer)) :
    total ((slots.set place none).filterMap id) + buffer.length = total (slots.filterMap id) := by
  induction slots generalizing place with
  | nil => simp at h
  | cons slot slots ih =>
    cases place with
    | zero =>
      obtain rfl : slot = some buffer := by simpa using h
      show total (slots.filterMap id) + buffer.length = total (buffer :: slots.filterMap id)
      rw [total_cons, Nat.add_comm]
    | succ place =>
      have rest := ih (by simpa using h)
      cases slot with
      | none => exact rest
      | some first =>
        show total (first :: (slots.set place none).filterMap id) + _ = total (first :: slots.filterMap id)
        rw [total_cons, total_cons, Nat.add_assoc, rest]

namespace Memory

variable {m m' : Memory R} {id : Nat}

@[simp]
theorem elements_push (m : Memory R) (buffer : Buffer R) : (m.push buffer).elements = m.elements + buffer.length := by
  simp [elements, push]

@[simp]
theorem elements_skip (m : Memory R) : m.skip.elements = m.elements := by simp [elements, skip]

theorem elements_remove {buffer : Buffer R} (h : m.buffer? id = some buffer) :
    (m.remove id).elements + buffer.length = m.elements := by
  have held : m.slots.toList[id]? = some (some buffer) := by
    rw [buffer?, Option.join_eq_some_iff] at h
    simpa using h
  rw [elements, elements, remove, Array.toList_setIfInBounds]
  exact Buffer.total_set_none held

/-- The elements, added up place by place. -/
theorem elements_eq (m : Memory R) :
    m.elements = ((List.range m.slots.size).map fun id => (m.length? id).getD 0).sum := by
  have places (slots : List (Option (Buffer R))) :
      Buffer.total (slots.filterMap id) = (slots.map fun slot => (slot.map Buffer.length).getD 0).sum := by
    induction slots with
    | nil => rfl
    | cons slot slots ih =>
      cases slot with
      | none =>
        rw [List.map_cons, List.sum_cons, ← ih]
        exact (Nat.zero_add _).symm
      | some buffer => exact congrArg (buffer.length + ·) ih
  rw [elements, places, toList_slots, List.map_map]
  rfl

/-- Buffers in place with their shapes take as much. -/
theorem SameShapes.elements (h : SameShapes m m') : m'.elements = m.elements := by
  simp only [elements_eq, h.size, h.length?]

end Memory

/-! ## Registers -/

/-- What the answers of a machine tell. -/
structure Register where
  /-- Numbers given out, the latest first. -/
  given : List Nat
  /-- Buffers that were allocated and not freed, by number and shape. -/
  held : List (Nat × Shape)
  /-- Elements of buffers that were asked for in vain because no block of host memory could hold them. -/
  spent : Nat

namespace Request

/-- Number of elements of the buffer that a request asks for, if it asks for one. -/
def elements : {kind : Kind} → Request R kind → Nat
  | _, .allocReals length => length
  | _, .allocIndices length => length
  | _, _ => 0

/-- A block of host memory can hold the buffer that the request asks for. -/
def Fits [Scalar R] : {kind : Kind} → Request R kind → Prop
  | _, .allocReals length => HostMemory.Fits length (Scalar.bytes R)
  | _, .allocIndices length => HostMemory.Fits length HostMemory.wordBytes
  | _, _ => True

end Request

namespace Register

/-- Nothing was asked for. -/
def empty : Register := ⟨[], [], 0⟩

/-- The register with a new buffer. -/
def give (register : Register) (id : Nat) (shape : Shape) : Register :=
  { register with given := id :: register.given, held := (id, shape) :: register.held }

/-- The register after a request that had this answer. -/
def settle (register : Register) : {kind : Kind} → Request R kind → kind.Answer R → Register
  | _, .allocReals length, buffer => register.give buffer.id (.reals length)
  | _, .allocIndices length, buffer => register.give buffer.id (.indices length)
  | _, .free id, _ => { register with held := register.held.filter fun entry => entry.1 ≠ id }
  | _, _, _ => register

/-- The register after a request, for a buffer of this many elements, that ended early. Only a crash leaves a trace. -/
def lapse (register : Register) (elements : Nat) : Halt DeviceError → Register
  | .error _ => register
  | .crash => { register with spent := register.spent + elements }

/-- The machine agrees with the register. -/
structure Agrees (register : Register) (capacity : Option Nat) (d : Machine R) : Prop where
  limited : d.capacity = capacity
  allocated : d.allocated = d.memory.elements + register.spent
  within {limit : Nat} : capacity = some limit → d.allocated ≤ limit
  low : ∀ id ∈ register.given, id < d.memory.slots.size
  given : register.given.Pairwise (· > ·)
  held (id : Nat) (shape : Shape) : d.memory.shape? id = some shape ↔ (id, shape) ∈ register.held

namespace Agrees

variable {register : Register} {capacity : Option Nat} {d d' : Machine R}

theorem fresh (capacity : Option Nat) : empty.Agrees capacity (Machine.empty capacity : Machine R) where
  limited := rfl
  allocated := rfl
  within _ := Nat.zero_le _
  low _ none := absurd none List.not_mem_nil
  given := .nil
  held id shape := by
    refine ⟨fun held => ?_, fun none => absurd none List.not_mem_nil⟩
    exact absurd (Memory.lt_size_of_shape? held) (Nat.not_lt_zero id)

/-- The register is right as long as every buffer stays in place with its shape. -/
theorem of_sameShapes (h : register.Agrees capacity d) (shapes : Memory.SameShapes d.memory d'.memory)
    (allocated : d'.allocated = d.allocated) (same : d'.capacity = d.capacity) : register.Agrees capacity d' where
  limited := same.trans h.limited
  allocated := by rw [allocated, shapes.elements, h.allocated]
  within limited := by
    rw [allocated]
    exact h.within limited
  low id among := by
    rw [shapes.size]
    exact h.low id among
  given := h.given
  held id shape := by rw [shapes.shape, h.held]

theorem push (h : register.Agrees capacity d) {buffer : Buffer R} (room : d.HasRoom buffer.length) :
    (register.give d.memory.slots.size buffer.shape).Agrees capacity
      { d with memory := d.memory.push buffer, allocated := d.allocated + buffer.length } where
  limited := h.limited
  allocated := by
    have before := h.allocated
    simp only [Memory.elements_push, give]
    omega
  within limited := room.add_le (h.limited.trans limited) (h.within limited)
  low id among := by
    show id < (d.memory.slots.push _).size
    rw [Array.size_push]
    rcases List.mem_cons.1 among with rfl | earlier
    · exact Nat.lt_succ_self _
    · exact Nat.lt_succ_of_lt (h.low id earlier)
  given := List.pairwise_cons.2 ⟨h.low, h.given⟩
  held id shape := by
    show (d.memory.push buffer).shape? id = some shape ↔ (id, shape) ∈ (_, _) :: register.held
    rw [Memory.shape?_push, List.mem_cons, Prod.mk.injEq, ← h.held]
    split
    · next new =>
      refine ⟨fun same => .inl ⟨new, (Option.some.inj same).symm⟩, ?_⟩
      rintro (⟨-, rfl⟩ | held)
      · rfl
      · exact absurd (Memory.lt_size_of_shape? held) (new ▸ Nat.lt_irrefl _)
    · next old => simp [old]

/-- The number and the elements of a buffer that could not be made are not used again. -/
theorem skip (h : register.Agrees capacity d) {length : Nat} (room : d.HasRoom length) :
    Agrees { register with spent := register.spent + length } capacity
      { d with memory := d.memory.skip, allocated := d.allocated + length } where
  limited := h.limited
  allocated := by
    have before := h.allocated
    simp only [Memory.elements_skip]
    omega
  within limited := room.add_le (h.limited.trans limited) (h.within limited)
  low id among := by
    show id < (d.memory.slots.push _).size
    rw [Array.size_push]
    exact Nat.lt_succ_of_lt (h.low id among)
  given := h.given
  held id shape := by
    show d.memory.skip.shape? id = some shape ↔ _
    rw [Memory.shape?_skip, h.held]

theorem remove (h : register.Agrees capacity d) {id : Nat} {buffer : Buffer R} (held : d.memory.buffer? id = some buffer) :
    Agrees { register with held := register.held.filter fun entry => entry.1 ≠ id } capacity
      { d with memory := d.memory.remove id, allocated := d.allocated - buffer.length } where
  limited := h.limited
  allocated := by
    have before := h.allocated
    have rest := Memory.elements_remove held
    show d.allocated - buffer.length = (d.memory.remove id).elements + register.spent
    omega
  within limited := Nat.le_trans (Nat.sub_le _ _) (h.within limited)
  low other among := by
    show other < (d.memory.slots.setIfInBounds id none).size
    rw [Array.size_setIfInBounds]
    exact h.low other among
  given := h.given
  held other shape := by
    show (d.memory.remove id).shape? other = some shape ↔ _
    rw [Memory.shape?_remove, List.mem_filter, ← h.held]
    split
    · next same => simp [same]
    · next different => simp [Ne.symm different]

end Agrees

end Register

/-! ## Requests -/

namespace Machine

variable {d : Machine R} {register : Register} {capacity : Option Nat}

/-- A buffer is registered with its number, or refused, or cannot be made. -/
theorem register_allocate (h : register.Agrees capacity d) (make : Nat → Buffer R) (bytes : Nat) {length : Nat}
    {shape : Shape} (shaped : (make length).shape = shape) (measured : shape.length = length) :
    Post (allocate make bytes length) d (fun id d' => (register.give id shape).Agrees capacity d')
      fun ending d' => (ending = .crash → ¬ HostMemory.Fits length bytes) ∧
        (register.lapse length ending).Agrees capacity d' := by
  have size : (make length).length = length := by rw [← Buffer.length_shape, shaped, measured]
  rw [allocate, post_bind]
  have refused (cause : DeviceError) : (Halt.error cause = .crash → ¬ HostMemory.Fits length bytes) ∧
      (register.lapse length (.error cause)).Agrees capacity d :=
    ⟨fun crashed => absurd crashed (Halt.error_ne_crash cause), h⟩
  refine post_checkAlive_of (fun _ => ?_) fun cause _ => refused cause
  rw [post_bind]
  refine post_checkRoom (fun room => ?_) fun available _ => refused _
  rw [post_bind, post_get]
  dsimp only
  split
  · have fits : d.HasRoom (make length).length := by rw [size]; exact room
    have entered := h.push fits
    rw [size, shaped] at entered
    exact entered
  · next large => exact ⟨fun _ => large, h.skip room⟩

theorem register_release (h : register.Agrees capacity d) (id : Nat) :
    Post (release id) d
      (fun _ d' => Register.Agrees { register with held := register.held.filter fun entry => entry.1 ≠ id } capacity d')
      fun ending d' => ending ≠ .crash ∧ register.Agrees capacity d' := by
  rw [release, post_bind, post_get]
  cases held : d.memory.buffer? id with
  | none => exact ⟨Halt.error_ne_crash _, h⟩
  | some buffer => exact h.remove held

theorem register_enqueue (h : register.Agrees capacity d) (command : Command R) :
    Post (enqueue command) d (fun _ d' => register.Agrees capacity d')
      fun ending d' => ending ≠ .crash ∧ register.Agrees capacity d' := by
  rw [enqueue, post_bind]
  apply post_checkAlive_of
  · intro _
    exact h.of_sameShapes (.refl _) rfl rfl
  · intro cause _
    exact ⟨Halt.error_ne_crash cause, h⟩

theorem register_read {α : Type} {reader : Step DeviceError (Memory R) α} (h : register.Agrees capacity d)
    (read : Post reader d.memory (fun _ _ => True) fun ending _ => ending ≠ .crash) :
    Post (Machine.read reader) d (fun _ d' => register.Agrees capacity d')
      fun ending d' => ending ≠ .crash ∧ register.Agrees capacity d' := by
  apply post_read_of
  · exact read.mono (fun _ _ _ => h) fun _ _ noCrash => ⟨noCrash, h⟩
  · exact fun cause => ⟨Halt.error_ne_crash cause, h⟩

variable [Scalar R]

/-- The queue leaves every buffer in place with its shape, also the command that fails. -/
theorem register_drain (h : register.Agrees capacity d) :
    Post drain d (fun _ d' => register.Agrees capacity d')
      fun ending d' => ending ≠ .crash ∧ register.Agrees capacity d' := by
  have ran := Command.post_runAll (m := d.memory) d.queue
  unfold Post drain
  cases run : Command.runAll d.queue d.memory with
  | ok _ m => exact h.of_sameShapes (ran.of_ok run).1.shapes rfl rfl
  | error ending m =>
    obtain ⟨noCrash, kept⟩ := ran.of_error run
    exact ⟨noCrash, h.of_sameShapes kept.shapes rfl rfl⟩

/-- Every request has its entry in the register. Only one for a buffer that no block of host memory can hold crashes. -/
theorem register_perform {kind : Kind} (request : Request R kind) (h : register.Agrees capacity d) :
    Post (perform request) d (fun a d' => (register.settle request a).Agrees capacity d')
      fun ending d' => (ending = .crash → ¬ request.Fits) ∧ (register.lapse request.elements ending).Agrees capacity d' := by
  have failed {ending : Halt DeviceError} {d' : Machine R}
      (left : ending ≠ .crash ∧ register.Agrees capacity d') :
      (ending = .crash → ¬ request.Fits) ∧ (register.lapse request.elements ending).Agrees capacity d' := by
    cases ending with
    | error cause => exact ⟨fun crashed => absurd crashed left.1, left.2⟩
    | crash => exact absurd rfl left.1
  cases request with
  | allocReals length =>
    have shaped : (Buffer.reals (List.replicate length (0 : R))).shape = .reals length :=
      congrArg Shape.reals List.length_replicate
    rw [perform, post_bind]
    exact (register_allocate h (fun k => .reals (List.replicate k 0)) _ shaped rfl).mono
      (fun _ _ entered => entered) fun _ _ left => left
  | allocIndices length =>
    have shaped : (Buffer.indices (List.replicate length 0) : Buffer R).shape = .indices length :=
      congrArg Shape.indices List.length_replicate
    rw [perform, post_bind]
    exact (register_allocate h (fun k => .indices (List.replicate k 0)) _ shaped rfl).mono
      (fun _ _ entered => entered) fun _ _ left => left
  | free id => exact (register_release h id).mono (fun _ _ struck => struck) fun _ _ => failed
  | copy target data => exact (register_enqueue h _).mono (fun _ _ same => same) fun _ _ => failed
  | launch kernel => exact (register_enqueue h _).mono (fun _ _ same => same) fun _ _ => failed
  | synchronize =>
    rw [perform, post_bind]
    refine post_checkAlive_of (fun _ => ?_) fun cause _ => failed ⟨Halt.error_ne_crash cause, h⟩
    exact (register_drain h).mono (fun _ _ same => same) fun _ _ => failed
  | readReals source length =>
    refine (register_read h ?_).mono (fun _ _ same => same) fun _ _ => failed
    exact Memory.post_readReals_of (fun _ _ _ => trivial) fun cause => Halt.error_ne_crash cause
  | readIndices source length =>
    refine (register_read h ?_).mono (fun _ _ same => same) fun _ _ => failed
    exact Memory.post_readIndices_of (fun _ _ _ => trivial) fun cause => Halt.error_ne_crash cause

end Machine

/-! ## Any requests -/

/-- A machine, and the register of its answers. -/
structure Logged (R : Type) where
  machine : Machine R
  register : Register

namespace Logged

variable [Scalar R]

/-- A machine of which nothing was asked. -/
def fresh (capacity : Option Nat) : Logged R := ⟨.empty capacity, .empty⟩

/-- Makes a request of the machine and registers what came of it. -/
def serve (s : Logged R) (request : Σ kind, Request R kind) : Logged R :=
  match Machine.perform request.2 s.machine with
  | .ok answer machine => ⟨machine, s.register.settle request.2 answer⟩
  | .error ending machine => ⟨machine, s.register.lapse request.2.elements ending⟩

/-- Makes several requests, one after the other, whatever comes of them. -/
def serveAll (s : Logged R) (requests : List (Σ kind, Request R kind)) : Logged R := requests.foldl serve s

variable {s : Logged R} {capacity : Option Nat}

theorem agrees_serve (h : s.register.Agrees capacity s.machine) (request : Σ kind, Request R kind) :
    (s.serve request).register.Agrees capacity (s.serve request).machine := by
  have answered := Machine.register_perform request.2 h
  unfold serve
  cases done : Machine.perform request.2 s.machine with
  | ok answer machine => exact answered.of_ok done
  | error ending machine => exact (answered.of_error done).2

theorem agrees_serveAll (h : s.register.Agrees capacity s.machine) (requests : List (Σ kind, Request R kind)) :
    (s.serveAll requests).register.Agrees capacity (s.serveAll requests).machine := by
  induction requests generalizing s with
  | nil => exact h
  | cons request requests ih => exact ih (agrees_serve h request)

/-- Nothing is spent on a buffer that host memory can hold. -/
theorem spent_serve (h : s.register.Agrees capacity s.machine) {request : Σ kind, Request R kind}
    (fits : request.2.Fits) : (s.serve request).register.spent = s.register.spent := by
  have answered := Machine.register_perform request.2 h
  unfold serve
  cases done : Machine.perform request.2 s.machine with
  | ok answer machine =>
    obtain ⟨kind, request⟩ := request
    cases request <;> rfl
  | error ending machine =>
    cases ending with
    | error cause => rfl
    | crash => exact absurd fits ((answered.of_error done).1 rfl)

theorem spent_serveAll (h : s.register.Agrees capacity s.machine) {requests : List (Σ kind, Request R kind)}
    (fits : ∀ request ∈ requests, request.2.Fits) : (s.serveAll requests).register.spent = s.register.spent := by
  induction requests generalizing s with
  | nil => rfl
  | cons request requests ih =>
    obtain ⟨first, rest⟩ := List.forall_mem_cons.1 fits
    exact (ih (agrees_serve h request) rest).trans (spent_serve h first)

/-- **The books of a machine are exact.** Any requests are made of a machine with any capacity or none: with handles of
buffers that never were or are gone, of the wrong type or too short, with outputs that are inputs as well, also after
requests that failed. Then what counts as allocated is what the buffers hold together, and within the capacity; only
buffers that no block of host memory could hold, the requests for which crash, count on top. Numbers are given out in
ascending order. The buffers are those that were allocated and not freed, each with its type and length. And however a
command ends, it does not crash, leaves every buffer with its type and length, and changes the contents of none but its
outputs. -/
theorem register_exact (capacity : Option Nat) (requests : List (Σ kind, Request R kind)) :
    let s := (fresh capacity : Logged R).serveAll requests
    s.machine.allocated = s.machine.memory.elements + s.register.spent ∧
    ((∀ request ∈ requests, request.2.Fits) → s.register.spent = 0) ∧
    (∀ limit, capacity = some limit → s.machine.allocated ≤ limit) ∧
    s.register.given.Pairwise (· > ·) ∧
    (∀ id shape, s.machine.memory.shape? id = some shape ↔ (id, shape) ∈ s.register.held) ∧
    ∀ (command : Command R) (m : Memory R), Post command.run m (fun _ m' => Ran command.writes m m')
      fun ending m' => ending ≠ .crash ∧ Ran command.writes m m' := by
  intro s
  have start : (fresh capacity : Logged R).register.Agrees capacity (fresh capacity : Logged R).machine := .fresh capacity
  have agrees : s.register.Agrees capacity s.machine := agrees_serveAll start requests
  refine ⟨agrees.allocated, fun fits => spent_serveAll start fits, fun limit => agrees.within, agrees.given, agrees.held,
    fun command m => ?_⟩
  exact command.post_run.mono (fun _ _ ran => ran.1) fun _ _ left => left

/-- There is no room for the third buffer. The kernel finds its operands detached, since it writes them, and loses the
machine; the buffer that it detached can still be freed, once. -/
def aliased : List (Σ kind, Request Float kind) :=
  [⟨_, .allocReals 3⟩, ⟨_, .allocIndices 4⟩, ⟨_, .allocReals 2⟩, ⟨_, .launch (.energies ⟨0⟩ ⟨0⟩ 1 1 ⟨0⟩)⟩,
    ⟨_, .synchronize⟩, ⟨_, .free 0⟩, ⟨_, .free 0⟩]

theorem register_exact_aliased :
    let s := (fresh (some 8) : Logged Float).serveAll aliased
    (∀ request ∈ aliased, request.2.Fits) ∧ s.machine.allocated = 4 ∧ s.machine.allocated ≤ 8 ∧
      s.register.given = [1, 0] ∧ s.machine.memory.shape? 1 = some (.indices 4) := by
  intro s
  obtain ⟨sum, unspent, within, -, held, -⟩ := register_exact (some 8) aliased
  have fits : ∀ request ∈ aliased, request.2.Fits := by
    simp [aliased, Request.Fits, HostMemory.Fits, HostMemory.wordBytes, show Scalar.bytes Float = 8 from rfl]
  have left : s.machine.memory.elements = 4 := by decide +kernel
  have listed : (1, .indices 4) ∈ s.register.held := .head _
  refine ⟨fits, ?_, within 8 rfl, by decide +kernel, (held 1 _).2 listed⟩
  rw [sum, unspent fits]
  exact left

end Logged

end BinaryQuadratic.Device
