import BinaryQuadratic.Device.Request

/-!
# Device memory

Buffers are numbered in the order of their allocation, and a number is never given to a second buffer. A buffer is
asked for with the number of elements needed: it must exist, hold elements of the right type, and be long enough, and
is refused for the first of these that fails. A buffer that a kernel writes is detached while the kernel runs, so it
cannot be read at the same time.
-/

namespace BinaryQuadratic.Device

/-- Contents of a buffer. -/
inductive Buffer (R : Type) where
  | reals (values : List R)
  | indices (values : List Index)

/-- Number of elements. -/
def Buffer.length {R : Type} : Buffer R → Nat
  | .reals values => values.length
  | .indices values => values.length

/-- Number of elements in all of these buffers. -/
def Buffer.total {R : Type} (buffers : List (Buffer R)) : Nat := buffers.foldr (fun buffer n => buffer.length + n) 0

@[simp]
theorem Buffer.total_nil {R : Type} : Buffer.total ([] : List (Buffer R)) = 0 := rfl

@[simp]
theorem Buffer.total_cons {R : Type} (buffer : Buffer R) (buffers : List (Buffer R)) :
    Buffer.total (buffer :: buffers) = buffer.length + Buffer.total buffers := rfl

@[simp]
theorem Buffer.total_append {R : Type} (buffers more : List (Buffer R)) :
    Buffer.total (buffers ++ more) = Buffer.total buffers + Buffer.total more := by
  induction buffers with
  | nil => simp
  | cons buffer buffers ih => simp [ih, Nat.add_assoc]

/-- The buffers of a device, each at the place of its number. Places of buffers that were freed are empty. -/
structure Memory (R : Type) where
  slots : Array (Option (Buffer R))

namespace Memory

variable {R : Type}

/-- No buffer was ever allocated. -/
def empty : Memory R := ⟨#[]⟩

/-- The buffer with this number. -/
def buffer? (m : Memory R) (id : Nat) : Option (Buffer R) := m.slots[id]?.join

/-- Number of buffers that exist. -/
def live (m : Memory R) : Nat := m.slots.toList.countP Option.isSome

/-- Number of elements in all buffers. -/
def elements (m : Memory R) : Nat := Buffer.total (m.slots.toList.filterMap id)

/-- Takes in a new buffer. Its number is the number of buffers before it. -/
def push (m : Memory R) (buffer : Buffer R) : Memory R := ⟨m.slots.push (some buffer)⟩

/-- Leaves the next number to no buffer. -/
def skip (m : Memory R) : Memory R := ⟨m.slots.push none⟩

/-- Empties a place. -/
def remove (m : Memory R) (id : Nat) : Memory R := ⟨m.slots.setIfInBounds id none⟩

/-- Fills a place. -/
def put (m : Memory R) (id : Nat) (buffer : Buffer R) : Memory R := ⟨m.slots.setIfInBounds id (some buffer)⟩

theorem buffer?_push (m : Memory R) (buffer : Buffer R) (id : Nat) :
    (m.push buffer).buffer? id = if id = m.slots.size then some buffer else m.buffer? id := by
  simp only [buffer?, push, Array.getElem?_push]
  split <;> simp

theorem buffer?_remove (m : Memory R) (removed id : Nat) :
    (m.remove removed).buffer? id = if removed = id then none else m.buffer? id := by
  simp only [buffer?, remove, Array.getElem?_setIfInBounds]
  split
  · split <;> simp
  · rfl

theorem buffer?_put {m : Memory R} {target : Nat} (h : target < m.slots.size) (buffer : Buffer R) (id : Nat) :
    (m.put target buffer).buffer? id = if target = id then some buffer else m.buffer? id := by
  simp only [buffer?, put, Array.getElem?_setIfInBounds]
  split
  · next same => subst same; simp
  · rfl

/-! ## Access -/

/-- The contents of a buffer of numbers that holds at least as many elements as needed. -/
def reals (m : Memory R) (source : RealHandle) (needed : Nat) : Except DeviceError (List R) :=
  match m.buffer? source.id with
  | some (.reals values) =>
    if needed ≤ values.length then .ok values
    else .error (.bufferTooSmall source.id values.length needed)
  | some (.indices _) => .error (.typeMismatch source.id)
  | none => .error (.invalidBuffer source.id)

/-- The contents of a buffer of indices that holds at least as many elements as needed. -/
def indices (m : Memory R) (source : IndexHandle) (needed : Nat) : Except DeviceError (List Index) :=
  match m.buffer? source.id with
  | some (.indices values) =>
    if needed ≤ values.length then .ok values
    else .error (.bufferTooSmall source.id values.length needed)
  | some (.reals _) => .error (.typeMismatch source.id)
  | none => .error (.invalidBuffer source.id)

/-- The first numbers of a buffer. -/
def readReals (source : RealHandle) (length : Nat) : Step DeviceError (Memory R) (List R) := do
  let values ← Step.ofExcept id ((← get).reals source length)
  return values.take length

/-- The first indices of a buffer. -/
def readIndices (source : IndexHandle) (length : Nat) : Step DeviceError (Memory R) (List Index) := do
  let values ← Step.ofExcept id ((← get).indices source length)
  return values.take length

/-- Writes new values over the first of the old ones. -/
def overwrite {α : Type} (old new : List α) : List α := new ++ old.drop new.length

@[simp]
theorem length_overwrite {α : Type} {old new : List α} (h : new.length ≤ old.length) :
    (overwrite old new).length = old.length := by
  simp [overwrite]
  omega

/-- Detaches a buffer of numbers. -/
def takeReals (target : RealHandle) (needed : Nat) : Step DeviceError (Memory R) (List R) := do
  let values ← Step.ofExcept id ((← get).reals target needed)
  modify fun m => m.remove target.id
  return values

/-- Detaches a buffer of indices. -/
def takeIndices (target : IndexHandle) (needed : Nat) : Step DeviceError (Memory R) (List Index) := do
  let values ← Step.ofExcept id ((← get).indices target needed)
  modify fun m => m.remove target.id
  return values

/-- Puts a detached buffer of numbers back, with new values at its front. -/
def putReals (target : RealHandle) (old new : List R) : Step DeviceError (Memory R) Unit :=
  modify fun m => m.put target.id (.reals (overwrite old new))

/-- Puts a detached buffer of indices back, with new values at its front. -/
def putIndices (target : IndexHandle) (old new : List Index) : Step DeviceError (Memory R) Unit :=
  modify fun m => m.put target.id (.indices (overwrite old new))

end Memory

end BinaryQuadratic.Device
