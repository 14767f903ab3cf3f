import BinaryQuadratic.Device.Memory
import BinaryQuadratic.Proofs.Step

/-!
# What device memory holds

Memory is looked at buffer by buffer, through `buffer?`. A kernel detaches the buffer it writes and puts it back: all it
does is replace that one (`replace`). Buffers that are allocated together get the next numbers, in order, and touch no
other (`pushAll`).
-/

namespace BinaryQuadratic.Device

open Step

namespace Memory

variable {R α : Type} {m : Memory R}

/-! ## Contents -/

/-- The buffer holds these numbers. -/
def HasReals (m : Memory R) (buffer : RealHandle) (values : List R) : Prop := m.buffer? buffer.id = some (.reals values)

/-- The buffer holds these indices. -/
def HasIndices (m : Memory R) (buffer : IndexHandle) (values : List Index) : Prop :=
  m.buffer? buffer.id = some (.indices values)

/-- Two memories have the same buffers, except perhaps those with these numbers. -/
def SameOutside (ids : List Nat) (m m' : Memory R) : Prop := ∀ id, id ∉ ids → m'.buffer? id = m.buffer? id

theorem SameOutside.refl (ids : List Nat) (m : Memory R) : SameOutside ids m m := fun _ _ => rfl

theorem SameOutside.trans {ids : List Nat} {m m' m'' : Memory R} (h : SameOutside ids m m')
    (h' : SameOutside ids m' m'') : SameOutside ids m m'' := fun id outside => (h' id outside).trans (h id outside)

/-- A buffer has one of the numbers given out so far. -/
theorem lt_size_of_buffer? {id : Nat} {buffer : Buffer R} (h : m.buffer? id = some buffer) : id < m.slots.size := by
  by_cases inside : id < m.slots.size
  · exact inside
  · rw [buffer?, Array.getElem?_eq_none (Nat.le_of_not_lt inside), Option.join_none] at h
    cases h

theorem buffer?_eq_none {id : Nat} (h : m.slots.size ≤ id) : m.buffer? id = none := by
  rw [buffer?, Array.getElem?_eq_none h]
  rfl

/-! ## Replacing a buffer -/

/-- The memory with another buffer at a place. -/
def replace (m : Memory R) (id : Nat) (buffer : Buffer R) : Memory R := (m.remove id).put id buffer

theorem buffer?_replace {id : Nat} {old : Buffer R} (h : m.buffer? id = some old) (buffer : Buffer R) (other : Nat) :
    (m.replace id buffer).buffer? other = if id = other then some buffer else m.buffer? other := by
  have inside : id < (m.remove id).slots.size := by
    rw [remove, Array.size_setIfInBounds]
    exact lt_size_of_buffer? h
  rw [replace, buffer?_put inside, buffer?_remove]
  split
  · rfl
  · rfl

theorem buffer?_replace_self {id : Nat} {old : Buffer R} (h : m.buffer? id = some old) (buffer : Buffer R) :
    (m.replace id buffer).buffer? id = some buffer := by
  rw [buffer?_replace h, if_pos rfl]

theorem buffer?_replace_of_ne {id other : Nat} {old : Buffer R} (h : m.buffer? id = some old) (buffer : Buffer R)
    (different : id ≠ other) : (m.replace id buffer).buffer? other = m.buffer? other := by
  rw [buffer?_replace h, if_neg different]

theorem sameOutside_replace {id : Nat} {old : Buffer R} (h : m.buffer? id = some old) (buffer : Buffer R)
    {ids : List Nat} (among : id ∈ ids) : SameOutside ids m (m.replace id buffer) := by
  intro other outside
  refine buffer?_replace_of_ne h buffer ?_
  rintro rfl
  exact outside among

/-! ## Room -/

/-- The buffer holds at least as many numbers. -/
def RoomReals (m : Memory R) (buffer : RealHandle) (length : Nat) : Prop :=
  ∃ values, m.HasReals buffer values ∧ length ≤ values.length

/-- The buffer holds at least as many indices. -/
def RoomIndices (m : Memory R) (buffer : IndexHandle) (length : Nat) : Prop :=
  ∃ values, m.HasIndices buffer values ∧ length ≤ values.length

/-- Two buffers have one type and length. -/
def SameShape : Buffer R → Buffer R → Prop
  | .reals values, .reals values' => values'.length = values.length
  | .indices values, .indices values' => values'.length = values.length
  | _, _ => False

/-- Another buffer of the same type and length leaves as much room everywhere. -/
theorem RoomReals.replace {buffer : RealHandle} {length id : Nat} {old new : Buffer R}
    (room : m.RoomReals buffer length) (h : m.buffer? id = some old) (same : SameShape old new) :
    (m.replace id new).RoomReals buffer length := by
  obtain ⟨values, held, enough⟩ := room
  by_cases self : id = buffer.id
  · subst self
    obtain rfl := Option.some.inj (held.symm.trans h)
    cases new with
    | reals values' => exact ⟨values', buffer?_replace_self h _, Nat.le_trans enough (Nat.le_of_eq same.symm)⟩
    | indices values' => exact same.elim
  · exact ⟨values, (buffer?_replace_of_ne h _ self).trans held, enough⟩

theorem RoomIndices.replace {buffer : IndexHandle} {length id : Nat} {old new : Buffer R}
    (room : m.RoomIndices buffer length) (h : m.buffer? id = some old) (same : SameShape old new) :
    (m.replace id new).RoomIndices buffer length := by
  obtain ⟨values, held, enough⟩ := room
  by_cases self : id = buffer.id
  · subst self
    obtain rfl := Option.some.inj (held.symm.trans h)
    cases new with
    | reals values' => exact same.elim
    | indices values' => exact ⟨values', buffer?_replace_self h _, Nat.le_trans enough (Nat.le_of_eq same.symm)⟩
  · exact ⟨values, (buffer?_replace_of_ne h _ self).trans held, enough⟩

/-! ## Reading and writing -/

theorem reals_eq {source : RealHandle} {values : List R} {needed : Nat} (h : m.HasReals source values)
    (enough : needed ≤ values.length) : m.reals source needed = .ok values := by
  rw [reals, h]
  exact if_pos enough

theorem indices_eq {source : IndexHandle} {values : List Index} {needed : Nat} (h : m.HasIndices source values)
    (enough : needed ≤ values.length) : m.indices source needed = .ok values := by
  rw [indices, h]
  exact if_pos enough

theorem post_readReals {source : RealHandle} {values : List R} {length : Nat}
    {ok : List R → Memory R → Prop} {halt : Halt DeviceError → Memory R → Prop} (h : m.HasReals source values)
    (enough : length ≤ values.length) :
    Post (readReals source length) m ok halt ↔ ok (values.take length) m := by
  rw [readReals, post_bind, post_get, reals_eq h enough]
  rfl

theorem post_readIndices {source : IndexHandle} {values : List Index} {length : Nat}
    {ok : List Index → Memory R → Prop} {halt : Halt DeviceError → Memory R → Prop} (h : m.HasIndices source values)
    (enough : length ≤ values.length) :
    Post (readIndices source length) m ok halt ↔ ok (values.take length) m := by
  rw [readIndices, post_bind, post_get, indices_eq h enough]
  rfl

theorem post_takeReals {target : RealHandle} {values : List R} {needed : Nat}
    {ok : List R → Memory R → Prop} {halt : Halt DeviceError → Memory R → Prop} (h : m.HasReals target values)
    (enough : needed ≤ values.length) :
    Post (takeReals target needed) m ok halt ↔ ok values (m.remove target.id) := by
  rw [takeReals, post_bind, post_get, reals_eq h enough]
  rfl

theorem post_takeIndices {target : IndexHandle} {values : List Index} {needed : Nat}
    {ok : List Index → Memory R → Prop} {halt : Halt DeviceError → Memory R → Prop} (h : m.HasIndices target values)
    (enough : needed ≤ values.length) :
    Post (takeIndices target needed) m ok halt ↔ ok values (m.remove target.id) := by
  rw [takeIndices, post_bind, post_get, indices_eq h enough]
  rfl

/-- What was written is what is read from the front. -/
theorem take_overwrite {old new : List α} : (overwrite old new).take new.length = new := List.take_left

theorem overwrite_of_length {old new : List α} (h : new.length = old.length) : overwrite old new = new := by
  rw [overwrite, h, List.drop_length, List.append_nil]

/-! ## Allocating several buffers -/

/-- The memory with further buffers. -/
def pushAll (m : Memory R) (buffers : List (Buffer R)) : Memory R := buffers.foldl push m

theorem pushAll_append (m : Memory R) (buffers : List (Buffer R)) (buffer : Buffer R) :
    m.pushAll (buffers ++ [buffer]) = (m.pushAll buffers).push buffer := List.foldl_append

theorem size_pushAll (m : Memory R) (buffers : List (Buffer R)) :
    (m.pushAll buffers).slots.size = m.slots.size + buffers.length := by
  induction buffers generalizing m with
  | nil => rfl
  | cons buffer buffers ih =>
    rw [pushAll, List.foldl_cons]
    have rest := ih (m.push buffer)
    rw [pushAll] at rest
    rw [rest, push, Array.size_push, List.length_cons]
    omega

/-- The new buffers have the next numbers, in order. -/
theorem buffer?_pushAll (m : Memory R) (buffers : List (Buffer R)) (id : Nat) :
    (m.pushAll buffers).buffer? id = if id < m.slots.size then m.buffer? id else buffers[id - m.slots.size]? := by
  induction buffers generalizing m with
  | nil =>
    split
    · rfl
    · next high => exact buffer?_eq_none (Nat.le_of_not_lt high)
  | cons buffer buffers ih =>
    have rest := ih (m.push buffer)
    rw [buffer?_push, push, Array.size_push] at rest
    rw [pushAll, List.foldl_cons]
    refine rest.trans ?_
    -- an old number, the number of the first new buffer, or that of a later one
    rcases Nat.lt_trichotomy id m.slots.size with low | same | high
    · rw [if_pos (by omega), if_neg (by omega), if_pos low]
    · rw [if_pos (by omega), if_pos same, if_neg (by omega), same, Nat.sub_self]
      rfl
    · rw [if_neg (by omega), if_neg (by omega), show id - m.slots.size = id - (m.slots.size + 1) + 1 by omega]
      rfl

theorem buffer?_pushAll_add (m : Memory R) (buffers : List (Buffer R)) (k : Nat) :
    (m.pushAll buffers).buffer? (m.slots.size + k) = buffers[k]? := by
  rw [buffer?_pushAll, if_neg (by omega), Nat.add_sub_cancel_left]

theorem buffer?_pushAll_of_lt (m : Memory R) (buffers : List (Buffer R)) {id : Nat} (h : id < m.slots.size) :
    (m.pushAll buffers).buffer? id = m.buffer? id := by
  rw [buffer?_pushAll, if_pos h]

end Memory

end BinaryQuadratic.Device
