import BinaryQuadratic.Proofs.Device.Command

/-!
# Memory with further places

Buffers can be allocated while commands wait. A command is blind to places that were added behind those it names
(`Memory.Blind`): run on the longer memory it ends as it would have ended before, and the further places are as they
were. So are several commands, one after the other (`Command.blind_runAll`).
-/

namespace BinaryQuadratic.Device

open Step

variable {R α β : Type}

namespace Memory

variable {m : Memory R} {place : Nat}

/-! ## Further places -/

/-- The memory with further places at its end. -/
def extend (m : Memory R) (places : Array (Option (Buffer R))) : Memory R := ⟨m.slots ++ places⟩

@[simp]
theorem extend_empty (m : Memory R) : m.extend #[] = m := by simp [extend]

@[simp]
theorem extend_extend (m : Memory R) (places more : Array (Option (Buffer R))) :
    (m.extend places).extend more = m.extend (places ++ more) := by
  simp [extend]

theorem push_eq_extend (m : Memory R) (buffer : Buffer R) : m.push buffer = m.extend #[some buffer] := by
  simp [push, extend]

theorem skip_eq_extend (m : Memory R) : m.skip = m.extend #[none] := by simp [skip, extend]

theorem size_le_extend (m : Memory R) (places : Array (Option (Buffer R))) :
    m.slots.size ≤ (m.extend places).slots.size := by
  simp [extend]

theorem buffer?_extend (low : place < m.slots.size) (places : Array (Option (Buffer R))) :
    (m.extend places).buffer? place = m.buffer? place := by
  rw [buffer?, buffer?, extend, Array.getElem?_append_left low]

theorem remove_extend (low : place < m.slots.size) (places : Array (Option (Buffer R))) :
    (m.extend places).remove place = (m.remove place).extend places := by
  rw [remove, remove, extend, extend, Array.setIfInBounds_append_left low]

theorem put_extend (low : place < m.slots.size) (buffer : Buffer R) (places : Array (Option (Buffer R))) :
    (m.extend places).put place buffer = (m.put place buffer).extend places := by
  rw [put, put, extend, extend, Array.setIfInBounds_append_left low]

theorem reals_extend {source : RealHandle} (low : source.id < m.slots.size) (needed : Nat)
    (places : Array (Option (Buffer R))) : (m.extend places).reals source needed = m.reals source needed := by
  rw [reals, reals, buffer?_extend low]

theorem indices_extend {source : IndexHandle} (low : source.id < m.slots.size) (needed : Nat)
    (places : Array (Option (Buffer R))) : (m.extend places).indices source needed = m.indices source needed := by
  rw [indices, indices, buffer?_extend low]

/-! ## Steps that are blind to them -/

/-- On memory of this size, the step leaves the size as it is, and does the same when there are further places. -/
def Blind (size : Nat) (step : Step DeviceError (Memory R) α) : Prop :=
  ∀ m : Memory R, m.slots.size = size → ∀ places,
    Post step m
      (fun a m' => m'.slots.size = size ∧ step (m.extend places) = .ok a (m'.extend places))
      fun ending m' => m'.slots.size = size ∧ step (m.extend places) = .error ending (m'.extend places)

namespace Blind

variable {size : Nat} {step : Step DeviceError (Memory R) α}

theorem pure (a : α) : Blind size (pure a : Step DeviceError (Memory R) α) := fun _ same _ => ⟨same, rfl⟩

theorem fail (cause : DeviceError) : Blind size (fail cause : Step DeviceError (Memory R) α) := fun _ same _ =>
  ⟨same, rfl⟩

theorem ofOption (result : Option α) : Blind size (ofOption result : Step DeviceError (Memory R) α) := by
  intro m same places
  cases result <;> exact ⟨same, rfl⟩

theorem change {f : Memory R → Memory R}
    (h : ∀ m, m.slots.size = size → (f m).slots.size = size ∧ ∀ places, f (m.extend places) = (f m).extend places) :
    Blind size (modify f : Step DeviceError (Memory R) PUnit) := by
  intro m same places
  obtain ⟨size', extended⟩ := h m same
  exact ⟨size', congrArg (EStateM.Result.ok PUnit.unit) (extended places)⟩

theorem bind {next : α → Step DeviceError (Memory R) β} (h : Blind size step) (h' : ∀ a, Blind size (next a)) :
    Blind size (step >>= next) := by
  intro m same places
  rw [post_bind]
  refine (h m same places).mono ?_ ?_
  · intro a m' after
    obtain ⟨same', run⟩ := after
    have rest := h' a m' same' places
    rwa [bind_apply, run]
  · intro ending m' after
    obtain ⟨same', run⟩ := after
    exact ⟨same', by rw [bind_apply, run]⟩

/-- What is looked up among the places there are is found in longer memory as well. -/
theorem look (find : Memory R → Except DeviceError α) {next : α → Step DeviceError (Memory R) β}
    (found : ∀ m : Memory R, m.slots.size = size → ∀ places, find (m.extend places) = find m)
    (h : ∀ a, Blind size (next a)) : Blind size (get >>= fun m => ofExcept id (find m) >>= next) := by
  intro m same places
  have sought : Blind size (ofExcept id (find m) : Step DeviceError (Memory R) α) := by
    cases find m with
    | ok a => exact pure a
    | error cause => exact fail cause
  have run := sought.bind h m same places
  rw [post_bind, post_get]
  rwa [show (get >>= fun m => ofExcept id (find m) >>= next : Step DeviceError (Memory R) β) (m.extend places) =
    (ofExcept id (find (m.extend places)) >>= next) (m.extend places) from rfl, found m same places]

theorem orCleanup {cleanup : Step DeviceError (Memory R) Unit} (h : Blind size step) (h' : Blind size cleanup) :
    Blind size (step.orCleanup cleanup) := by
  intro m same places
  rw [post_orCleanup]
  refine (h m same places).mono ?_ ?_
  · intro a m' after
    obtain ⟨same', run⟩ := after
    exact ⟨same', by rw [Step.orCleanup, run]⟩
  · intro ending m' after
    obtain ⟨same', run⟩ := after
    cases ending with
    | crash => exact ⟨same', by rw [Step.orCleanup, run]⟩
    | error cause =>
      refine (h' m' same' places).mono ?_ ?_
      · intro _ m'' after
        obtain ⟨same'', cleaned⟩ := after
        exact ⟨same'', by simp only [Step.orCleanup, run, cleaned]⟩
      · intro ending m'' after
        obtain ⟨same'', cleaned⟩ := after
        exact ⟨same'', by simp only [Step.orCleanup, run, cleaned]⟩

/-! ### Access to buffers -/

theorem readReals {source : RealHandle} (low : source.id < size) (length : Nat) :
    Blind size (readReals source length : Step DeviceError (Memory R) (List R)) := by
  apply look fun m : Memory R => m.reals source length
  · intro m same places
    exact reals_extend (by omega) length places
  · exact fun _ => pure _

/-- A place that is emptied stays a place. -/
theorem remove (low : place < size) :
    Blind size (modify fun m => m.remove place : Step DeviceError (Memory R) PUnit) := by
  apply change
  intro m same
  exact ⟨by simpa [Memory.remove] using same, fun places => remove_extend (by omega) places⟩

theorem put (low : place < size) (buffer : Buffer R) :
    Blind size (modify fun m => m.put place buffer : Step DeviceError (Memory R) PUnit) := by
  apply change
  intro m same
  exact ⟨by simpa [Memory.put] using same, fun places => put_extend (by omega) buffer places⟩

theorem takeReals {target : RealHandle} (low : target.id < size) (needed : Nat) :
    Blind size (takeReals target needed : Step DeviceError (Memory R) (List R)) := by
  apply look fun m : Memory R => m.reals target needed
  · intro m same places
    exact reals_extend (by omega) needed places
  · exact fun _ => (remove low).bind fun _ => pure _

theorem takeIndices {target : IndexHandle} (low : target.id < size) (needed : Nat) :
    Blind size (takeIndices target needed : Step DeviceError (Memory R) (List Index)) := by
  apply look fun m : Memory R => m.indices target needed
  · intro m same places
    exact indices_extend (by omega) needed places
  · exact fun _ => (remove low).bind fun _ => pure _

end Blind

end Memory

/-! ## Commands -/

/-- The buffers that a command names have places in memory of this size. -/
def Command.Placed (size : Nat) (command : Command R) : Prop := ∀ operand ∈ command.operands, operand.1 < size

theorem Command.Placed.mono {size size' : Nat} {command : Command R} (h : command.Placed size) (le : size ≤ size') :
    command.Placed size' := fun operand among => Nat.lt_of_lt_of_le (h operand among) le

variable [Scalar R] {size : Nat}

open Memory in
theorem Kernel.blind_run {kernel : Kernel R} (placed : ∀ operand ∈ kernel.operands, operand.1 < size) :
    Blind size kernel.run := by
  cases kernel with
  | writeAssignments out n start stop =>
    have outPlaced : out.id < size := by simpa [operands] using placed
    have written (rows : Nat) : Blind size (takeReals out (rows * n) >>= fun old =>
        putReals out old (bitRows n rows start) : Step DeviceError (Memory R) Unit) :=
      (Blind.takeReals outPlaced _).bind fun _ => .put outPlaced _
    rw [Kernel.run]
    split
    · exact (Blind.fail _).bind fun _ => written _
    · exact written _
  | energies weights bits n rows out =>
    obtain ⟨weightsPlaced, bitsPlaced, outPlaced⟩ : weights.id < size ∧ bits.id < size ∧ out.id < size := by
      simpa [operands] using placed
    have evaluated : Blind size (evaluateRows weights bits n rows : Step DeviceError (Memory R) (List R)) :=
      (Blind.readReals weightsPlaced _).bind fun _ => (Blind.readReals bitsPlaced _).bind fun _ => .ofOption _
    rw [Kernel.run]
    refine (Blind.takeReals outPlaced _).bind fun _ => ?_
    exact (evaluated.orCleanup (.put outPlaced _)).bind fun _ => .put outPlaced _
  | reduceLeast values length out =>
    obtain ⟨valuesPlaced, outPlaced⟩ : values.id < size ∧ out.id < size := by simpa [operands] using placed
    rw [Kernel.run]
    refine (Blind.readReals valuesPlaced _).bind fun _ => ?_
    exact (Blind.takeReals outPlaced _).bind fun _ => .put outPlaced _
  | select values length threshold base out count =>
    obtain ⟨valuesPlaced, outPlaced, countPlaced⟩ : values.id < size ∧ out.id < size ∧ count.id < size := by
      simpa [operands] using placed
    rw [Kernel.run]
    refine (Blind.readReals valuesPlaced _).bind fun _ => ?_
    refine (Blind.takeIndices outPlaced _).bind fun _ => (Blind.put outPlaced _).bind fun _ => ?_
    exact (Blind.takeIndices countPlaced _).bind fun _ => .put countPlaced _

namespace Command

theorem blind_run {command : Command R} (placed : command.Placed size) : Memory.Blind size command.run := by
  cases command with
  | copy target data =>
    have low : target.id < size := placed (_, _) List.mem_cons_self
    rw [Command.run]
    exact (Memory.Blind.takeReals low _).bind fun _ => .put low _
  | launch kernel => exact kernel.blind_run placed

/-- Commands in a queue are blind to buffers that are allocated while they wait. -/
theorem blind_runAll {queue : List (Command R)} (placed : ∀ command ∈ queue, command.Placed size) :
    Memory.Blind size (runAll queue) := by
  induction queue with
  | nil => exact .pure _
  | cons command queue ih =>
    obtain ⟨first, rest⟩ := List.forall_mem_cons.1 placed
    exact (blind_run first).bind fun _ => ih rest

end Command

end BinaryQuadratic.Device
