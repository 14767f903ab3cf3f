import BinaryQuadratic.Proofs.Device.Kernel

/-!
# Commands that may find their buffers gone

Commands wait in a queue while buffers are freed and allocated. A command changes nothing but the contents of the
buffers it writes, and one that runs to its end had all its operands in place (`Command.post_run`). Whether it runs to its end is
told by its operands alone: a command that was proper when it was queued (`Command.Proper`) stays so, since places of
freed buffers are not filled again, and proper commands run to the end exactly if none of their operands is gone
(`Command.runAll_eq_ok_iff`).
-/

namespace BinaryQuadratic.Device

open Step

/-! ## Shapes -/

/-- Type and length of a buffer. -/
inductive Shape where
  | reals (length : Nat)
  | indices (length : Nat)

/-- A buffer of the first shape can serve where one of the second is needed. -/
def Shape.Serves : Shape → Shape → Prop
  | .reals length, .reals needed => needed ≤ length
  | .indices length, .indices needed => needed ≤ length
  | _, _ => False

/-- The shape of a buffer. -/
def Buffer.shape {R : Type} : Buffer R → Shape
  | .reals values => .reals values.length
  | .indices values => .indices values.length

namespace Memory

variable {R : Type} {m m' m'' : Memory R}

/-- The shape of the buffer with this number. -/
def shape? (m : Memory R) (id : Nat) : Option Shape := (m.buffer? id).map Buffer.shape

theorem lt_size_of_shape? {id : Nat} {shape : Shape} (h : m.shape? id = some shape) : id < m.slots.size := by
  obtain ⟨buffer, held, -⟩ := Option.map_eq_some_iff.1 h
  exact lt_size_of_buffer? held

theorem shape?_push (m : Memory R) (buffer : Buffer R) (id : Nat) :
    (m.push buffer).shape? id = if id = m.slots.size then some buffer.shape else m.shape? id := by
  rw [shape?, buffer?_push]
  split <;> rfl

theorem shape?_skip (m : Memory R) (id : Nat) : m.skip.shape? id = m.shape? id := by
  simp only [shape?, buffer?, skip, Array.getElem?_push]
  split
  · next last => simp [last]
  · rfl

theorem shape?_remove (m : Memory R) (removed id : Nat) :
    (m.remove removed).shape? id = if removed = id then none else m.shape? id := by
  rw [shape?, buffer?_remove]
  split <;> rfl

/-- The buffer was not freed. -/
def IsLive (m : Memory R) (id : Nat) : Prop := (m.buffer? id).isSome = true

/-- Every buffer is still there, with its shape. -/
structure SameShapes (m m' : Memory R) : Prop where
  size : m'.slots.size = m.slots.size
  shape (id : Nat) : m'.shape? id = m.shape? id

/-- Every number that was given out is still that of a buffer of its shape, or of none. -/
structure Narrows (m m' : Memory R) : Prop where
  size : m.slots.size ≤ m'.slots.size
  shape {id : Nat} : id < m.slots.size → m'.shape? id = none ∨ m'.shape? id = m.shape? id

theorem SameShapes.refl (m : Memory R) : SameShapes m m := ⟨rfl, fun _ => rfl⟩

theorem SameShapes.trans (h : SameShapes m m') (h' : SameShapes m' m'') : SameShapes m m'' :=
  ⟨h'.size.trans h.size, fun id => (h'.shape id).trans (h.shape id)⟩

theorem SameShapes.symm (h : SameShapes m m') : SameShapes m' m := ⟨h.size.symm, fun id => (h.shape id).symm⟩

theorem SameShapes.narrows (h : SameShapes m m') : Narrows m m' :=
  ⟨Nat.le_of_eq h.size.symm, fun _ => Or.inr (h.shape _)⟩

theorem SameShapes.isLive_iff (h : SameShapes m m') {id : Nat} : m'.IsLive id ↔ m.IsLive id := by
  have same := congrArg Option.isSome (h.shape id)
  rw [shape?, shape?, Option.isSome_map, Option.isSome_map] at same
  rw [IsLive, IsLive, same]

theorem isLive_of_reals {buffer : RealHandle} {values : List R} (h : m.HasReals buffer values) :
    m.IsLive buffer.id := by
  rw [IsLive, h]
  rfl

theorem shape?_of_reals {buffer : RealHandle} {values : List R} (h : m.HasReals buffer values) :
    m.shape? buffer.id = some (.reals values.length) := by
  rw [shape?, h]
  rfl

theorem exists_reals_of_shape? {buffer : RealHandle} {length : Nat} (h : m.shape? buffer.id = some (.reals length)) :
    ∃ values, m.HasReals buffer values ∧ values.length = length := by
  obtain ⟨held, same, shape⟩ := Option.map_eq_some_iff.1 h
  cases held with
  | reals values =>
    cases shape
    exact ⟨values, same, rfl⟩
  | indices values => cases shape

theorem isLive_of_indices {buffer : IndexHandle} {values : List Index} (h : m.HasIndices buffer values) :
    m.IsLive buffer.id := by
  rw [IsLive, h]
  rfl

/-- Another buffer of the same shape at a place changes no shapes. -/
theorem sameShapes_replace {id : Nat} {old new : Buffer R} (h : m.buffer? id = some old)
    (same : new.shape = old.shape) : SameShapes m (m.replace id new) := by
  refine ⟨by simp [replace, remove, put], fun other => ?_⟩
  rw [shape?, buffer?_replace h, shape?]
  split
  · next here =>
    subst here
    rw [h, Option.map_some, Option.map_some, same]
  · rfl

theorem shape_overwrite {old new : List R} (h : new.length ≤ old.length) :
    (Buffer.reals (overwrite old new)).shape = (Buffer.reals old).shape :=
  congrArg Shape.reals (length_overwrite h)

theorem shape_overwrite_indices {old new : List Index} (h : new.length ≤ old.length) :
    (Buffer.indices (overwrite old new) : Buffer R).shape = (Buffer.indices old : Buffer R).shape :=
  congrArg Shape.indices (length_overwrite h)

theorem narrows_remove (m : Memory R) (removed : Nat) : Narrows m (m.remove removed) := by
  refine ⟨by simp [remove], fun {id} _ => ?_⟩
  rw [shape?_remove]
  split
  · exact Or.inl rfl
  · exact Or.inr rfl

/-! ## Operands -/

/-- The buffer, as long as it is there, can serve where one of this shape is needed. -/
structure Suits (m : Memory R) (id : Nat) (needed : Shape) : Prop where
  low : id < m.slots.size
  serves {shape : Shape} : m.shape? id = some shape → shape.Serves needed

theorem Suits.narrow {id : Nat} {needed : Shape} (h : m.Suits id needed) (narrows : Narrows m m') :
    m'.Suits id needed := by
  refine ⟨Nat.lt_of_lt_of_le h.low narrows.size, fun {shape} held => ?_⟩
  rcases narrows.shape h.low with gone | same
  · cases gone.symm.trans held
  · exact h.serves (same.symm.trans held)

theorem suits_of_roomReals {buffer : RealHandle} {length : Nat} (h : m.RoomReals buffer length) :
    m.Suits buffer.id (.reals length) := by
  obtain ⟨values, held, room⟩ := h
  refine ⟨lt_size_of_buffer? held, fun {shape} same => ?_⟩
  rw [shape?, held] at same
  cases same
  exact room

theorem suits_of_roomIndices {buffer : IndexHandle} {length : Nat} (h : m.RoomIndices buffer length) :
    m.Suits buffer.id (.indices length) := by
  obtain ⟨values, held, room⟩ := h
  refine ⟨lt_size_of_buffer? held, fun {shape} same => ?_⟩
  rw [shape?, held] at same
  cases same
  exact room

theorem Suits.roomReals {buffer : RealHandle} {length : Nat} (h : m.Suits buffer.id (.reals length))
    (live : m.IsLive buffer.id) : m.RoomReals buffer length := by
  obtain ⟨held, same⟩ := Option.isSome_iff_exists.1 live
  have serves := h.serves (show m.shape? buffer.id = some held.shape by rw [shape?, same]; rfl)
  cases held with
  | reals values => exact ⟨values, same, serves⟩
  | indices values => exact serves.elim

theorem Suits.roomIndices {buffer : IndexHandle} {length : Nat} (h : m.Suits buffer.id (.indices length))
    (live : m.IsLive buffer.id) : m.RoomIndices buffer length := by
  obtain ⟨held, same⟩ := Option.isSome_iff_exists.1 live
  have serves := h.serves (show m.shape? buffer.id = some held.shape by rw [shape?, same]; rfl)
  cases held with
  | reals values => exact serves.elim
  | indices values => exact ⟨values, same, serves⟩

theorem RoomReals.mono {buffer : RealHandle} {length length' : Nat} (h : m.RoomReals buffer length)
    (short : length' ≤ length) : m.RoomReals buffer length' := by
  obtain ⟨values, held, room⟩ := h
  exact ⟨values, held, Nat.le_trans short room⟩

theorem RoomIndices.mono {buffer : IndexHandle} {length length' : Nat} (h : m.RoomIndices buffer length)
    (short : length' ≤ length) : m.RoomIndices buffer length' := by
  obtain ⟨values, held, room⟩ := h
  exact ⟨values, held, Nat.le_trans short room⟩

theorem RoomReals.isLive {buffer : RealHandle} {length : Nat} (h : m.RoomReals buffer length) : m.IsLive buffer.id := by
  obtain ⟨values, held, -⟩ := h
  exact isLive_of_reals held

theorem RoomIndices.isLive {buffer : IndexHandle} {length : Nat} (h : m.RoomIndices buffer length) :
    m.IsLive buffer.id := by
  obtain ⟨values, held, -⟩ := h
  exact isLive_of_indices held

/-- Where no shape changed there is as much room as before. -/
theorem RoomReals.of_sameShapes {buffer : RealHandle} {length : Nat} (h : m.RoomReals buffer length)
    (same : SameShapes m m') : m'.RoomReals buffer length :=
  ((suits_of_roomReals h).narrow same.narrows).roomReals (same.isLive_iff.2 h.isLive)

theorem RoomIndices.of_sameShapes {buffer : IndexHandle} {length : Nat} (h : m.RoomIndices buffer length)
    (same : SameShapes m m') : m'.RoomIndices buffer length :=
  ((suits_of_roomIndices h).narrow same.narrows).roomIndices (same.isLive_iff.2 h.isLive)

/-! ## Reading and detaching what may be gone -/

section Access

variable {halt : Halt DeviceError → Memory R → Prop}

theorem post_readReals_of {source : RealHandle} {length : Nat} {ok : List R → Memory R → Prop}
    (held : ∀ values, m.HasReals source values → length ≤ values.length → ok (values.take length) m)
    (refused : ∀ cause, halt (.error cause) m) : Post (readReals source length) m ok halt := by
  rw [readReals, post_bind, post_get, reals]
  split
  · next values same =>
    split
    · next enough => exact held values same enough
    · exact refused _
  · exact refused _
  · exact refused _

theorem post_readIndices_of {source : IndexHandle} {length : Nat} {ok : List Index → Memory R → Prop}
    (held : ∀ values, m.HasIndices source values → length ≤ values.length → ok (values.take length) m)
    (refused : ∀ cause, halt (.error cause) m) : Post (readIndices source length) m ok halt := by
  rw [readIndices, post_bind, post_get, indices]
  split
  · next values same =>
    split
    · next enough => exact held values same enough
    · exact refused _
  · exact refused _
  · exact refused _

theorem post_takeReals_of {target : RealHandle} {needed : Nat} {ok : List R → Memory R → Prop}
    (held : ∀ values, m.HasReals target values → needed ≤ values.length → ok values (m.remove target.id))
    (refused : ∀ cause, halt (.error cause) m) : Post (takeReals target needed) m ok halt := by
  rw [takeReals, post_bind, post_get, reals]
  split
  · next values same =>
    split
    · next enough => exact held values same enough
    · exact refused _
  · exact refused _
  · exact refused _

theorem post_takeIndices_of {target : IndexHandle} {needed : Nat} {ok : List Index → Memory R → Prop}
    (held : ∀ values, m.HasIndices target values → needed ≤ values.length → ok values (m.remove target.id))
    (refused : ∀ cause, halt (.error cause) m) : Post (takeIndices target needed) m ok halt := by
  rw [takeIndices, post_bind, post_get, indices]
  split
  · next values same =>
    split
    · next enough => exact held values same enough
    · exact refused _
  · exact refused _
  · exact refused _

end Access

end Memory

/-! ## Commands -/

variable {R : Type}

/-- The buffers that a kernel writes, by number. -/
def Kernel.writes : Kernel R → List Nat
  | .writeAssignments out _ _ _ => [out.id]
  | .energies _ _ _ _ out => [out.id]
  | .reduceLeast _ _ out => [out.id]
  | .select _ _ _ _ out count => [out.id, count.id]

/-- The buffers that a kernel needs, by number, and the shapes it needs them to have. -/
def Kernel.operands : Kernel R → List (Nat × Shape)
  | .writeAssignments out n start stop => [(out.id, .reals ((stop.toNat - start.toNat) * n))]
  | .energies weights bits n rows out =>
    [(weights.id, .reals (n * n)), (bits.id, .reals (rows * n)), (out.id, .reals rows)]
  | .reduceLeast values length out => [(values.id, .reals length), (out.id, .reals 1)]
  | .select values length _ _ out count =>
    [(values.id, .reals length), (out.id, .indices length), (count.id, .indices 1)]

/-- What a kernel needs besides its operands: a span that is in order, and operands to read that are not the buffer that
is written meanwhile. -/
def Kernel.InOrder : Kernel R → Prop
  | .writeAssignments _ _ start stop => start ≤ stop
  | .energies weights bits _ _ out => out.id ≠ weights.id ∧ out.id ≠ bits.id
  | .reduceLeast _ _ _ => True
  | .select _ _ _ _ out count => out.id ≠ count.id

namespace Command

/-- The buffers that a command writes. -/
def writes : Command R → List Nat
  | .copy target _ => [target.id]
  | .launch kernel => kernel.writes

/-- The buffers that a command needs, and their shapes. -/
def operands : Command R → List (Nat × Shape)
  | .copy target data => [(target.id, .reals data.length)]
  | .launch kernel => kernel.operands

/-- What a command needs besides its operands. -/
def InOrder : Command R → Prop
  | .copy _ _ => True
  | .launch kernel => kernel.InOrder

/-- None of the buffers that the command needs was freed. -/
def IsLive (m : Memory R) (command : Command R) : Prop := ∀ operand ∈ command.operands, m.IsLive operand.1

/-- The command is in order, and those of its operands that are there suit it. -/
structure Proper (m : Memory R) (command : Command R) : Prop where
  inOrder : command.InOrder
  suits : ∀ operand ∈ command.operands, m.Suits operand.1 operand.2

theorem Proper.narrow {m m' : Memory R} {command : Command R} (h : command.Proper m) (narrows : Memory.Narrows m m') :
    command.Proper m' :=
  ⟨h.inOrder, fun operand among => (h.suits operand among).narrow narrows⟩

theorem IsLive.of_sameShapes {m m' : Memory R} {command : Command R} (h : command.IsLive m)
    (same : Memory.SameShapes m m') : command.IsLive m' :=
  fun operand among => same.isLive_iff.2 (h operand among)

end Command

/-- What a command leaves: all buffers with their shapes, and all but those it writes with their contents. -/
structure Ran (ids : List Nat) (m m' : Memory R) : Prop where
  shapes : Memory.SameShapes m m'
  outside : Memory.SameOutside ids m m'

theorem Ran.trans {ids ids' : List Nat} {m m' m'' : Memory R} (h : Ran ids m m') (h' : Ran ids' m' m'') :
    Ran (ids ++ ids') m m'' := by
  refine ⟨h.shapes.trans h'.shapes, fun id outside => ?_⟩
  rw [List.mem_append, not_or] at outside
  exact (h'.outside id outside.2).trans (h.outside id outside.1)

theorem Ran.refl (ids : List Nat) (m : Memory R) : Ran ids m m := ⟨.refl m, .refl ids m⟩

theorem Ran.mono {ids ids' : List Nat} {m m' : Memory R} (h : Ran ids m m') (sub : ids ⊆ ids') : Ran ids' m m' :=
  ⟨h.shapes, fun id outside => h.outside id fun among => outside (sub among)⟩

theorem ran_replace {m : Memory R} {id : Nat} {old new : Buffer R} (h : m.buffer? id = some old)
    (same : new.shape = old.shape) : Ran [id] m (m.replace id new) :=
  ⟨Memory.sameShapes_replace h same, Memory.sameOutside_replace h new List.mem_cons_self⟩

variable [Scalar R] {m m' : Memory R}

/-! ## Energies of rows -/

theorem isSome_addRows? {n : Nat} (bits : List R) {values weights : List R}
    (enough : values.length * n ≤ weights.length) (energy : R) :
    (addRows? n bits values weights energy).isSome = true := by
  induction values generalizing weights energy with
  | nil => rfl
  | cons value values ih =>
    rw [List.length_cons, Nat.succ_mul] at enough
    rw [addRows?, if_neg (by omega)]
    exact ih (by rw [List.length_drop]; omega) _

/-- Weights that are all there have a form for every row of numbers. -/
theorem isSome_quadraticForm? {weights : List R} {n : Nat} (enough : n * n ≤ weights.length) (bits : List R) :
    (quadraticForm? weights n bits).isSome = true := by
  refine isSome_addRows? bits (Nat.le_trans (Nat.mul_le_mul_right n ?_) enough) 0
  exact List.length_take_le n bits

theorem exists_energies {weights : List R} {n : Nat} (enough : n * n ≤ weights.length) (rows : List (List R)) :
    ∃ energies, rows.mapM (quadraticForm? weights n) = some energies := by
  refine ⟨_, mapM_eq_some (g := fun bits => (quadraticForm? weights n bits).getD 0) fun bits _ => ?_⟩
  obtain ⟨energy, computed⟩ := Option.isSome_iff_exists.1 (isSome_quadraticForm? enough bits)
  rw [computed, Option.getD_some]

/-! ## Running to the end -/

omit [Scalar R] in
theorem length_rowsOf (n rows : Nat) (bits : List R) : (rowsOf n rows bits).length = rows := by
  induction rows generalizing bits with
  | zero => rfl
  | succ rows ih => rw [rowsOf, List.length_cons, ih]

omit [Scalar R] in
theorem length_of_mapM_eq_some {α β : Type} {f : α → Option β} {xs : List α} {ys : List β} (h : xs.mapM f = some ys) :
    ys.length = xs.length := by
  induction xs generalizing ys with
  | nil => cases h; rfl
  | cons x xs ih =>
    rw [List.mapM_cons] at h
    obtain ⟨y, -, rest⟩ := Option.bind_eq_some_iff.1 h
    obtain ⟨ys', hys, same⟩ := Option.bind_eq_some_iff.1 rest
    cases same
    rw [List.length_cons, List.length_cons, ih hys]

theorem length_selectedFrom_le (values : List R) (threshold : R) (base : Index) :
    (selectedFrom values threshold base).length ≤ values.length :=
  Nat.le_trans (List.length_filterMap_le _ _) (Nat.le_of_eq List.length_zipIdx)

/-- A kernel that runs to its end had its operands in place. One that fails does not crash. Either way it leaves what a
command does. -/
theorem Kernel.post_run (kernel : Kernel R) :
    Post kernel.run m (fun _ m' => Ran kernel.writes m m' ∧ ∀ operand ∈ kernel.operands, m.IsLive operand.1)
      fun ending m' => ending ≠ .crash ∧ Ran kernel.writes m m' := by
  have untouched (cause : DeviceError) : Halt.error cause ≠ .crash ∧ Ran kernel.writes m m :=
    ⟨Halt.error_ne_crash cause, .refl _ m⟩
  cases kernel with
  | writeAssignments out n start stop =>
    rw [Kernel.run]
    split
    · exact untouched _
    · show Post (Memory.takeReals out ((stop.toNat - start.toNat) * n) >>= _) m _ _
      rw [post_bind]
      refine Memory.post_takeReals_of (fun old held room => ?_) untouched
      have fits : (bitRows n (stop.toNat - start.toNat) start : List R).length ≤ old.length := by
        rw [length_bitRows]
        exact room
      exact ⟨ran_replace held (Memory.shape_overwrite fits), by simpa [operands] using Memory.isLive_of_reals held⟩
  | energies weights bits n rows out =>
    rw [Kernel.run, post_bind]
    refine Memory.post_takeReals_of (fun old held room => ?_) untouched
    -- what is read while the output is detached was there before
    have attached {buffer : RealHandle} {values : List R} (read : (m.remove out.id).HasReals buffer values) :
        m.IsLive buffer.id := by
      rw [Memory.HasReals, Memory.buffer?_remove] at read
      split at read
      · cases read
      · exact Memory.isLive_of_reals read
    have restored (cause : DeviceError) :
        Halt.error cause ≠ .crash ∧ Ran [out.id] m (m.replace out.id (.reals (Memory.overwrite old []))) :=
      ⟨Halt.error_ne_crash cause, ran_replace held (Memory.shape_overwrite (Nat.zero_le _))⟩
    rw [post_bind, post_orCleanup, evaluateRows, post_bind]
    refine Memory.post_readReals_of (fun w hw enough => ?_) restored
    rw [post_bind]
    refine Memory.post_readReals_of (fun b hb _ => ?_) restored
    have whole : n * n ≤ (w.take (n * n)).length := by rw [List.length_take]; omega
    obtain ⟨energies, computed⟩ := exists_energies whole (rowsOf n rows (b.take (rows * n)))
    rw [computed]
    have fits : energies.length ≤ old.length := by
      rw [length_of_mapM_eq_some computed, length_rowsOf]
      exact room
    refine ⟨ran_replace held (Memory.shape_overwrite fits), ?_⟩
    simpa [operands] using ⟨attached hw, attached hb, Memory.isLive_of_reals held⟩
  | reduceLeast values length out =>
    rw [Kernel.run, post_bind]
    refine Memory.post_readReals_of (fun v hv _ => ?_) untouched
    rw [post_bind]
    refine Memory.post_takeReals_of (fun old held room => ?_) untouched
    refine ⟨ran_replace held (Memory.shape_overwrite room), ?_⟩
    simpa [operands] using ⟨Memory.isLive_of_reals hv, Memory.isLive_of_reals held⟩
  | select values length threshold base out count =>
    rw [Kernel.run, post_bind]
    refine Memory.post_readReals_of (fun v hv _ => ?_) untouched
    rw [post_bind]
    refine Memory.post_takeIndices_of (fun old held room => ?_) untouched
    have ran := ran_replace held (Memory.shape_overwrite_indices room)
    rw [post_bind, Memory.putIndices, post_modify, post_bind]
    -- without a place for the count the indices stay written
    refine Memory.post_takeIndices_of (fun old' held' room' => ?_) fun cause =>
      ⟨Halt.error_ne_crash cause, ran.mono (by simp [writes])⟩
    refine ⟨ran.trans (ran_replace held' (Memory.shape_overwrite_indices room')), ?_⟩
    have live := ran.shapes.isLive_iff.1 (Memory.isLive_of_indices held')
    simpa [operands] using ⟨Memory.isLive_of_reals hv, Memory.isLive_of_indices held, live⟩

namespace Command

/-- A command that runs to its end had its operands in place, and no command crashes. However it ends, it changes only
what it writes, and leaves all buffers with their shapes. -/
theorem post_run (command : Command R) :
    Post command.run m (fun _ m' => Ran command.writes m m' ∧ command.IsLive m)
      fun ending m' => ending ≠ .crash ∧ Ran command.writes m m' := by
  cases command with
  | copy target data =>
    rw [Command.run, post_bind]
    refine Memory.post_takeReals_of (fun old held room => ?_) fun cause => ⟨Halt.error_ne_crash cause, .refl _ m⟩
    exact ⟨ran_replace held (Memory.shape_overwrite room), by
      simpa [IsLive, operands] using Memory.isLive_of_reals held⟩
  | launch kernel => exact kernel.post_run

/-- Commands that follow others are run on what these leave. -/
theorem runAll_append (queue more : List (Command R)) :
    runAll (queue ++ more) = (runAll queue >>= fun _ => runAll more) := by
  induction queue with
  | nil => rfl
  | cons command queue ih =>
    funext m
    rw [List.cons_append, runAll, runAll, ih, bind_apply, bind_apply, bind_apply]
    cases command.run m with
    | ok _ m₁ => exact bind_apply
    | error ending m₁ => rfl

theorem runAll_append_eq_ok {queue more : List (Command R)} {m' : Memory R}
    (ran : runAll (queue ++ more) m = .ok () m') : ∃ m₁, runAll queue m = .ok () m₁ ∧ runAll more m₁ = .ok () m' := by
  rw [runAll_append, bind_apply] at ran
  cases first : runAll queue m with
  | ok _ m₁ =>
    rw [first] at ran
    exact ⟨m₁, rfl, ran⟩
  | error ending m₁ =>
    rw [first] at ran
    cases ran

/-- The same of several commands. -/
theorem post_runAll (queue : List (Command R)) :
    Post (runAll queue) m (fun _ m' => Ran (queue.flatMap writes) m m' ∧ ∀ command ∈ queue, command.IsLive m)
      fun ending m' => ending ≠ .crash ∧ Ran (queue.flatMap writes) m m' := by
  induction queue generalizing m with
  | nil => exact ⟨.refl _ m, fun _ none => absurd none List.not_mem_nil⟩
  | cons command queue ih =>
    rw [runAll, post_bind, List.flatMap_cons]
    refine command.post_run.mono ?_ fun _ _ left => ⟨left.1, left.2.mono (List.subset_append_left _ _)⟩
    intro _ m' after
    obtain ⟨ran, live⟩ := after
    refine ih.mono ?_ fun _ _ left => ⟨left.1, ran.trans left.2⟩
    intro _ m'' after
    obtain ⟨ran', live'⟩ := after
    refine ⟨ran.trans ran', List.forall_mem_cons.2 ⟨live, fun other among operand hoperand => ?_⟩⟩
    exact ran.shapes.isLive_iff.1 (live' other among operand hoperand)

end Command

/-! ## Operands that are in place -/

/-- A kernel that is in order runs to its end on operands that suit it. -/
theorem Kernel.run_ok {kernel : Kernel R} (inOrder : kernel.InOrder)
    (suits : ∀ operand ∈ kernel.operands, m.Suits operand.1 operand.2)
    (live : ∀ operand ∈ kernel.operands, m.IsLive operand.1) :
    Post kernel.run m (fun _ _ => True) fun _ _ => False := by
  cases kernel with
  | writeAssignments out n start stop =>
    simp only [operands, List.forall_mem_cons] at suits live
    obtain ⟨old, held, room⟩ := suits.1.roomReals live.1
    exact (post_writeAssignments (s := ⟨start, stop⟩) held inOrder room).2 trivial
  | energies weights bits n rows out =>
    simp only [operands, List.forall_mem_cons] at suits live
    obtain ⟨w, hw, enough⟩ := suits.1.roomReals live.1
    obtain ⟨b, hb, enough'⟩ := suits.2.1.roomReals live.2.1
    obtain ⟨old, held, room⟩ := suits.2.2.1.roomReals live.2.2.1
    have whole : n * n ≤ (w.take (n * n)).length := by rw [List.length_take]; omega
    obtain ⟨energies, computed⟩ := exists_energies whole (rowsOf n rows (b.take (rows * n)))
    exact (post_energies hw hb held inOrder enough enough' room computed).2 trivial
  | reduceLeast values length out =>
    simp only [operands, List.forall_mem_cons] at suits live
    obtain ⟨v, hv, enough⟩ := suits.1.roomReals live.1
    obtain ⟨old, held, room⟩ := suits.2.1.roomReals live.2.1
    exact (post_reduceLeast hv held enough room).2 trivial
  | select values length threshold base out count =>
    simp only [operands, List.forall_mem_cons] at suits live
    obtain ⟨v, hv, enough⟩ := suits.1.roomReals live.1
    obtain ⟨old, held, room⟩ := suits.2.1.roomIndices live.2.1
    obtain ⟨old', held', room'⟩ := suits.2.2.1.roomIndices live.2.2.1
    have few : (selectedFrom (v.take length) threshold base).length ≤ old.length := by
      have := length_selectedFrom_le (v.take length) threshold base
      rw [List.length_take] at this
      omega
    exact (post_select hv held held' inOrder enough rfl few room').2 trivial

namespace Command

theorem run_ok {command : Command R} (proper : command.Proper m) (live : command.IsLive m) :
    Post command.run m (fun _ _ => True) fun _ _ => False := by
  cases command with
  | copy target data =>
    obtain ⟨old, held, room⟩ := (proper.suits _ List.mem_cons_self).roomReals (live _ List.mem_cons_self)
    exact (post_copy held room).2 trivial
  | launch kernel => exact kernel.run_ok proper.inOrder proper.suits live

/-- Proper commands run to the end exactly if none of their operands is gone. -/
theorem runAll_eq_ok_iff {queue : List (Command R)} (proper : ∀ command ∈ queue, command.Proper m) :
    (∃ m', runAll queue m = .ok () m') ↔ ∀ command ∈ queue, command.IsLive m := by
  constructor
  · rintro ⟨m', ran⟩
    exact ((post_runAll queue).of_ok ran).2
  · intro live
    induction queue generalizing m with
    | nil => exact ⟨m, rfl⟩
    | cons command queue ih =>
      rw [List.forall_mem_cons] at proper live
      obtain ⟨_, m', ran, -⟩ := (run_ok proper.1 live.1).exists_ok
      -- the others find their operands as they were
      have kept := (command.post_run.of_ok ran).1.shapes
      obtain ⟨m'', rested⟩ := ih (fun other among => (proper.2 other among).narrow kept.narrows)
        fun other among => (live.2 other among).of_sameShapes kept
      refine ⟨m'', ?_⟩
      rw [runAll, bind_apply, ran]
      exact rested

end Command

end BinaryQuadratic.Device
