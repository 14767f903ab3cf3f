import BinaryQuadratic.Proofs.Device.Command
import BinaryQuadratic.Proofs.Device.Machine

/-!
# The books of a machine

The books of a machine list its buffers by number and length, each once, and what it counts as allocated is what they
take together. Every request has its entry in the books, whether it succeeds or fails (`Machine.books_perform`): buffers
are entered when they are allocated and struck off when they are freed, and nothing else changes the list. Running the
queue is no exception, since commands leave every buffer in place with its length, even the one that fails.
-/

namespace BinaryQuadratic.Device

open Step

variable {R : Type}

/-! ## What memory takes -/

/-- Number of elements of a buffer with this shape. -/
def Shape.length : Shape → Nat
  | .reals length => length
  | .indices length => length

theorem Buffer.length_shape (buffer : Buffer R) : buffer.shape.length = buffer.length := by cases buffer <;> rfl

namespace Memory

variable {m m' : Memory R} {id length : Nat}

/-- Length of the buffer with this number. -/
def length? (m : Memory R) (id : Nat) : Option Nat := (m.buffer? id).map Buffer.length

theorem lt_size_of_length? (h : m.length? id = some length) : id < m.slots.size := by
  obtain ⟨buffer, held, -⟩ := Option.map_eq_some_iff.1 h
  exact lt_size_of_buffer? held

theorem length?_push (m : Memory R) (buffer : Buffer R) (id : Nat) :
    (m.push buffer).length? id = if id = m.slots.size then some buffer.length else m.length? id := by
  rw [length?, buffer?_push]
  split <;> rfl

theorem length?_remove (m : Memory R) (removed id : Nat) :
    (m.remove removed).length? id = if removed = id then none else m.length? id := by
  rw [length?, buffer?_remove]
  split <;> rfl

theorem SameShapes.length? (h : SameShapes m m') (id : Nat) : m'.length? id = m.length? id := by
  have measured (m : Memory R) : m.length? id = (m.shape? id).map Shape.length := by
    rw [shape?, Option.map_map, Memory.length?]
    exact congrArg (fun f => (m.buffer? id).map f) (funext fun buffer => buffer.length_shape.symm)
  rw [measured, measured, h.shape id]

/-- The places, by their numbers. -/
theorem toList_slots (m : Memory R) : m.slots.toList = (List.range m.slots.size).map m.buffer? := by
  apply List.ext_getElem
  · simp
  · intro i inside inside'
    have low : i < m.slots.size := by simpa using inside
    simp [buffer?, Array.getElem?_eq_getElem low]

/-- The buffers that exist, counted place by place. -/
theorem live_eq (m : Memory R) : m.live = (List.range m.slots.size).countP fun id => (m.length? id).isSome := by
  rw [live, toList_slots, List.countP_map]
  congr 1
  funext id
  simp [Memory.length?]

end Memory

/-! ## Books -/

/-- Number of elements in buffers with these entries. -/
def total (entries : List (Nat × Nat)) : Nat := entries.foldr (fun entry n => entry.2 + n) 0

@[simp]
theorem total_nil : total [] = 0 := rfl

@[simp]
theorem total_cons (entry : Nat × Nat) (entries : List (Nat × Nat)) :
    total (entry :: entries) = entry.2 + total entries := rfl

@[simp]
theorem total_append (entries more : List (Nat × Nat)) : total (entries ++ more) = total entries + total more := by
  induction entries with
  | nil => simp
  | cons entry entries ih => simp [ih, Nat.add_assoc]

/-- The order of the entries makes no difference. -/
theorem total_perm {entries more : List (Nat × Nat)} (same : entries.Perm more) : total entries = total more := by
  induction same with
  | nil => rfl
  | cons entry _ ih => rw [total_cons, total_cons, ih]
  | swap entry other entries => simp only [total_cons, Nat.add_left_comm]
  | trans _ _ ih ih' => exact ih.trans ih'

/-- An entry that is struck off is one of the entries before. -/
theorem exists_perm_eraseP {entries : List (Nat × Nat)} {id : Nat} (listed : id ∈ entries.map (·.1)) :
    ∃ length, entries.Perm ((id, length) :: entries.eraseP (·.1 == id)) := by
  obtain ⟨entry, among, rfl⟩ := List.mem_map.1 listed
  obtain ⟨⟨id, length⟩, before, after, -, same, parts, erased⟩ :=
    List.exists_of_eraseP (p := fun other => other.1 == entry.1) among (beq_self_eq_true _)
  obtain rfl : id = entry.1 := beq_iff_eq.1 same
  refine ⟨length, ?_⟩
  rw [erased]
  exact (List.Perm.of_eq parts).trans List.perm_middle

/-- These are the buffers of the machine, by number and length, and what they take is allocated, as far as there is
room. -/
structure Machine.Books (entries : List (Nat × Nat)) (d : Machine R) : Prop where
  nodup : (entries.map (·.1)).Nodup
  mem_iff {id length : Nat} : (id, length) ∈ entries ↔ d.memory.length? id = some length
  allocated : d.allocated = total entries
  within {limit : Nat} : d.capacity = some limit → d.allocated ≤ limit

namespace Machine.Books

variable {d d' : Machine R} {entries entries' : List (Nat × Nat)} {id length : Nat}

theorem mem_ids_iff (h : d.Books entries) : id ∈ entries.map (·.1) ↔ (d.memory.length? id).isSome = true := by
  rw [List.mem_map, Option.isSome_iff_exists]
  constructor
  · rintro ⟨⟨_, length⟩, among, rfl⟩
    exact ⟨length, h.mem_iff.1 among⟩
  · rintro ⟨length, held⟩
    exact ⟨(id, length), h.mem_iff.2 held, rfl⟩

/-- There are as many buffers as entries. -/
theorem live_eq (h : d.Books entries) : d.memory.live = entries.length := by
  have listed : (entries.map (·.1)).Perm
      ((List.range d.memory.slots.size).filter fun id => (d.memory.length? id).isSome) := by
    refine (List.perm_ext_iff_of_nodup h.nodup (List.nodup_range.filter _)).2 fun id => ?_
    rw [h.mem_ids_iff, List.mem_filter, List.mem_range]
    refine ⟨fun held => ⟨?_, held⟩, And.right⟩
    obtain ⟨length, same⟩ := Option.isSome_iff_exists.1 held
    exact Memory.lt_size_of_length? same
  rw [d.memory.live_eq, List.countP_eq_length_filter, ← listed.length_eq, List.length_map]

theorem perm (h : d.Books entries) (same : entries.Perm entries') : d.Books entries' where
  nodup := (same.map _).nodup_iff.1 h.nodup
  mem_iff := same.mem_iff.symm.trans h.mem_iff
  allocated := h.allocated.trans (total_perm same)
  within := h.within

theorem empty (capacity : Option Nat) : (Machine.empty capacity : Machine R).Books [] where
  nodup := List.nodup_nil
  mem_iff {id length} := by
    refine ⟨fun none => absurd none List.not_mem_nil, fun held => ?_⟩
    exact absurd (Memory.lt_size_of_length? held) (Nat.not_lt_zero id)
  allocated := rfl
  within _ := Nat.zero_le _

/-- The books stay as they are while every buffer stays in place with its length. -/
theorem of_sameShapes (h : d.Books entries) (shapes : Memory.SameShapes d.memory d'.memory)
    (allocated : d'.allocated = d.allocated) (capacity : d'.capacity = d.capacity) : d'.Books entries where
  nodup := h.nodup
  mem_iff {id length} := by
    rw [shapes.length?]
    exact h.mem_iff
  allocated := allocated.trans h.allocated
  within limit := by
    rw [allocated]
    exact h.within (capacity ▸ limit)

/-- A new buffer, for which there is room, is entered with the next number. -/
theorem push (h : d.Books entries) {buffer : Buffer R} (room : d.HasRoom buffer.length) :
    Machine.Books ((d.memory.slots.size, buffer.length) :: entries)
      { d with memory := d.memory.push buffer, allocated := d.allocated + buffer.length } where
  nodup := by
    refine List.nodup_cons.2 ⟨fun listed => ?_, h.nodup⟩
    obtain ⟨length, held⟩ := Option.isSome_iff_exists.1 (h.mem_ids_iff.1 listed)
    exact Nat.lt_irrefl _ (Memory.lt_size_of_length? held)
  mem_iff {id length} := by
    rw [Memory.length?_push, List.mem_cons, Prod.mk.injEq, h.mem_iff]
    split
    · next new =>
      subst new
      refine ⟨?_, fun same => Or.inl ⟨rfl, (Option.some.inj same).symm⟩⟩
      rintro (⟨-, rfl⟩ | held)
      · rfl
      · exact absurd (Memory.lt_size_of_length? held) (Nat.lt_irrefl _)
    · next old => exact ⟨fun either => either.resolve_left fun new => old new.1, Or.inr⟩
  allocated := by
    show d.allocated + buffer.length = _
    rw [h.allocated, total_cons, Nat.add_comm]
  within limited := room.add_le limited (h.within limited)

/-- A buffer that is freed is struck off. -/
theorem remove (h : d.Books ((id, length) :: entries)) :
    Machine.Books entries { d with memory := d.memory.remove id, allocated := d.allocated - length } where
  nodup := (List.nodup_cons.1 h.nodup).2
  mem_iff {other length'} := by
    have first : id ∉ entries.map (·.1) := (List.nodup_cons.1 h.nodup).1
    rw [Memory.length?_remove]
    split
    · next same =>
      subst same
      exact ⟨fun again => absurd (List.mem_map_of_mem again) first, fun none => nomatch none⟩
    · next other =>
      rw [← h.mem_iff, List.mem_cons, Prod.mk.injEq]
      exact ⟨Or.inr, fun either => either.resolve_left fun same => other same.1.symm⟩
  allocated := by
    show d.allocated - length = _
    rw [h.allocated, total_cons, Nat.add_sub_cancel_left]
  within limited := Nat.le_trans (Nat.sub_le _ _) (h.within limited)

end Machine.Books

/-! ## Requests -/

namespace Request

/-- The buffer that a request frees, if it frees one. -/
def frees : {kind : Kind} → Request R kind → Option Nat
  | _, .free id => some id
  | _, _ => none

/-- The books after a request that had this answer. -/
def enter (entries : List (Nat × Nat)) : {kind : Kind} → Request R kind → kind.Answer R → List (Nat × Nat)
  | _, .allocReals length, buffer => (buffer.id, length) :: entries
  | _, .allocIndices length, buffer => (buffer.id, length) :: entries
  | _, .free id, _ => entries.eraseP (·.1 == id)
  | _, .copy _ _, _ => entries
  | _, .launch _, _ => entries
  | _, .synchronize, _ => entries
  | _, .readReals _ _, _ => entries
  | _, .readIndices _ _, _ => entries

/-- An answer that is read is as long as it was asked for. -/
def Answered : {kind : Kind} → Request R kind → kind.Answer R → Prop
  | _, .readReals _ length, values => values.length = length
  | _, .readIndices _ length, values => values.length = length
  | _, _, _ => True

end Request

namespace Machine

variable {d : Machine R} {entries : List (Nat × Nat)}

/-- A buffer is entered with its number, or refused. -/
theorem books_allocate (h : d.Books entries) {make : Nat → Buffer R} (measured : ∀ k, (make k).length = k)
    (bytes length : Nat) :
    Post (allocate make bytes length) d (fun id d' => d'.Books ((id, length) :: entries))
      fun ending d' => ending ≠ .crash → d'.Books entries := by
  rw [allocate, post_bind]
  refine post_checkAlive_of (fun _ => ?_) fun _ _ _ => h
  rw [post_bind]
  refine post_checkRoom (fun room => ?_) fun _ _ _ => h
  rw [post_bind, post_get]
  dsimp only
  split
  · have fits : d.HasRoom (make length).length := by rw [measured]; exact room
    have entered := h.push fits
    rw [measured] at entered
    exact entered
  · exact fun other => absurd rfl other

/-- A buffer that is in the books can be freed, and is struck off. -/
theorem books_release (h : d.Books entries) {id : Nat} (listed : id ∈ entries.map (·.1)) :
    Post (release id) d (fun _ d' => d'.Books (entries.eraseP (·.1 == id))) fun _ _ => False := by
  obtain ⟨length, same⟩ := exists_perm_eraseP listed
  have first := h.perm same
  obtain ⟨buffer, held, rfl⟩ := Option.map_eq_some_iff.1 (first.mem_iff.1 List.mem_cons_self)
  rw [release, post_bind, post_get, held]
  exact first.remove

/-- Commands that wait are in no books. -/
theorem books_enqueue (h : d.Books entries) (command : Command R) :
    Post (enqueue command) d (fun _ d' => d'.Books entries) fun _ d' => d'.Books entries := by
  rw [enqueue, post_bind]
  exact post_checkAlive_of (fun _ => h.of_sameShapes (.refl _) rfl rfl) fun _ _ => h

/-- Reading changes nothing, also when it is refused. -/
theorem post_read_of {α : Type} {reader : Step DeviceError (Memory R) α} {ok : α → Machine R → Prop}
    {halt : Halt DeviceError → Machine R → Prop}
    (held : Post reader d.memory (fun a _ => ok a d) fun ending _ => halt ending d)
    (refused : ∀ cause, halt (.error cause) d) : Post (Machine.read reader) d ok halt := by
  cases waiting : d.queue with
  | nil =>
    cases alive : d.poisoned with
    | true =>
      rw [Machine.read, post_bind]
      apply post_checkAlive_of
      · intro other
        exact absurd (other.symm.trans alive) Bool.false_ne_true
      · exact fun cause _ => refused cause
    | false =>
      cases done : reader d.memory with
      | ok a m => exact post_of_eq_ok ((read_eq alive waiting).trans (by rw [done])) (held.of_ok done)
      | error ending m => exact post_of_eq_error ((read_eq alive waiting).trans (by rw [done])) (held.of_error done)
  | cons command rest =>
    rw [Machine.read, post_bind]
    refine post_checkAlive_of (fun _ => post_bind.2 ?_) fun cause _ => refused cause
    rw [checkIdle, post_bind, post_get, waiting]
    exact refused _

theorem books_read {α : Type} {reader : Step DeviceError (Memory R) α} {answered : α → Prop} (h : d.Books entries)
    (read : Post reader d.memory (fun a _ => answered a) fun _ _ => True) :
    Post (Machine.read reader) d (fun a d' => d'.Books entries ∧ answered a) fun _ d' => d'.Books entries := by
  apply post_read_of
  · exact read.mono (fun _ _ right => ⟨h, right⟩) fun _ _ _ => h
  · exact fun _ => h

variable [Scalar R]

/-- The queue leaves every buffer in place with its length. -/
theorem books_drain (h : d.Books entries) :
    Post drain d (fun _ d' => d'.Books entries) fun _ d' => d'.Books entries := by
  have ran := Command.post_runAll (m := d.memory) d.queue
  cases run : Command.runAll d.queue d.memory with
  | ok _ m =>
    have drained : drain d = .ok () { d with memory := m, queue := [] } := by rw [drain, run]
    exact post_of_eq_ok drained (h.of_sameShapes (ran.of_ok run).1.shapes rfl rfl)
  | error ending m =>
    have drained : drain d = .error ending { d with memory := m, queue := [], poisoned := true } := by rw [drain, run]
    exact post_of_eq_error drained (h.of_sameShapes (ran.of_error run).2.shapes rfl rfl)

/-- Every request has its entry in the books. -/
theorem books_perform {kind : Kind} (request : Request R kind) (h : d.Books entries)
    (listed : ∀ id, request.frees = some id → id ∈ entries.map (·.1)) :
    Post (perform request) d (fun a d' => d'.Books (request.enter entries a) ∧ request.Answered a)
      fun ending d' => ending ≠ .crash → d'.Books entries ∧ request.frees = none := by
  cases request with
  | allocReals length =>
    have measured (k : Nat) : (Buffer.reals (List.replicate k (0 : R))).length = k := List.length_replicate
    rw [perform, post_bind]
    exact (books_allocate h measured _ _).mono (fun _ _ entered => ⟨entered, trivial⟩)
      fun _ _ left other => ⟨left other, rfl⟩
  | allocIndices length =>
    have measured (k : Nat) : (Buffer.indices (List.replicate k 0) : Buffer R).length = k := List.length_replicate
    rw [perform, post_bind]
    exact (books_allocate h measured _ _).mono (fun _ _ entered => ⟨entered, trivial⟩)
      fun _ _ left other => ⟨left other, rfl⟩
  | free id =>
    exact (books_release h (listed id rfl)).mono (fun _ _ struck => ⟨struck, trivial⟩) fun _ _ never => never.elim
  | copy target data =>
    exact (books_enqueue h _).mono (fun _ _ same => ⟨same, trivial⟩) fun _ _ same _ => ⟨same, rfl⟩
  | launch kernel =>
    exact (books_enqueue h _).mono (fun _ _ same => ⟨same, trivial⟩) fun _ _ same _ => ⟨same, rfl⟩
  | synchronize =>
    rw [perform, post_bind]
    refine post_checkAlive_of (fun _ => ?_) fun _ _ _ => ⟨h, rfl⟩
    exact (books_drain h).mono (fun _ _ same => ⟨same, trivial⟩) fun _ _ left _ => ⟨left, rfl⟩
  | readReals source length =>
    refine (books_read h ?_).mono (fun _ _ same => same) fun _ _ same _ => ⟨same, rfl⟩
    exact Memory.post_readReals_of (fun _ _ enough => List.length_take_of_le enough) fun _ => trivial
  | readIndices source length =>
    refine (books_read h ?_).mono (fun _ _ same => same) fun _ _ same _ => ⟨same, rfl⟩
    exact Memory.post_readIndices_of (fun _ _ enough => List.length_take_of_le enough) fun _ => trivial

end Machine

end BinaryQuadratic.Device
