import BinaryQuadratic.Proofs.Device.Books
import BinaryQuadratic.Proofs.Device.Extension

/-!
# What requests leave of a machine

A request leaves a machine in some state, however it ends (`Step.left`). A lost machine is left as it is, except that
buffers can be freed; reading leaves every machine as it is. What an allocation leaves is told without the buffers and
commands there are (`Machine.exists_left_allocate`).
-/

namespace BinaryQuadratic

/-! ## What a step leaves -/

namespace Step

variable {ε σ α β : Type} {step : Step ε σ α} {s : σ}

/-- The state that a step leaves, however it ends. -/
def left (step : Step ε σ α) (s : σ) : σ :=
  match step s with
  | .ok _ s' => s'
  | .error _ s' => s'

/-- What holds of the state after a step holds of the state that it leaves. -/
theorem left_of_post {holds : σ → Prop} (post : Post step s (fun _ s' => holds s') fun _ s' => holds s') :
    holds (step.left s) := by
  unfold Post at post
  unfold left
  cases done : step s <;> simpa only [done] using post

theorem left_bind_pure (step : Step ε σ α) (f : α → β) :
    (step >>= fun a => pure (f a)).left s = step.left s := by
  unfold left
  rw [bind_apply]
  cases step s <;> rfl

end Step

namespace Device

open Step

variable {R : Type}

/-- A place without a buffer is empty already. -/
theorem Memory.remove_eq_self {m : Memory R} {id : Nat} (h : m.buffer? id = none) : m.remove id = m := by
  obtain ⟨slots⟩ := m
  apply congrArg Memory.mk
  apply Array.ext_getElem?
  intro place
  rw [Array.getElem?_setIfInBounds]
  split
  · next same =>
    subst same
    rw [buffer?, Option.join_eq_none_iff] at h
    rcases h with outside | empty
    · rw [outside, if_neg (by simpa using outside)]
    · rw [empty, if_pos (Array.getElem?_eq_some_iff.1 empty).1]
  · rfl

namespace Machine

/-! ## Lost machines -/

section Alive

variable {α : Type} {d : Machine R}

theorem checkAlive_bind (alive : d.poisoned = false) (next : Unit → Step DeviceError (Machine R) α) :
    (checkAlive >>= next) d = next () d := by
  obtain ⟨memory, queue, allocated, capacity, poisoned⟩ := d
  cases alive
  rfl

theorem checkAlive_bind_of_poisoned (lost : d.poisoned = true) (next : Unit → Step DeviceError (Machine R) α) :
    (checkAlive >>= next) d = .error (.error .poisoned) d := by
  obtain ⟨memory, queue, allocated, capacity, poisoned⟩ := d
  cases lost
  rfl

theorem left_checkAlive_bind_of_poisoned (lost : d.poisoned = true) (next : Unit → Step DeviceError (Machine R) α) :
    (checkAlive >>= next).left d = d := by
  rw [left, checkAlive_bind_of_poisoned lost]

end Alive

variable [Scalar R] {d : Machine R}

/-- A machine that was lost refuses everything but to free buffers. -/
theorem perform_of_poisoned (lost : d.poisoned = true) {kind : Kind} {request : Request R kind}
    (keeps : request.frees = none) : perform request d = .error (.error .poisoned) d := by
  have refused {α : Type} (next : Unit → Step DeviceError (Machine R) α) := checkAlive_bind_of_poisoned lost next
  cases request with
  | allocReals length =>
    rw [perform, bind_apply, allocate, refused]
  | allocIndices length =>
    rw [perform, bind_apply, allocate, refused]
  | free id => cases keeps
  | copy target data => exact refused _
  | launch kernel => exact refused _
  | synchronize => exact refused _
  | readReals source length => exact refused _
  | readIndices source length => exact refused _

theorem left_perform_of_poisoned (lost : d.poisoned = true) {kind : Kind} {request : Request R kind}
    (keeps : request.frees = none) : (perform request).left d = d := by
  rw [left, perform_of_poisoned lost keeps]

/-! ## Freeing and reading -/

omit [Scalar R] in
/-- A buffer is gone after it is freed, and nothing else is changed. -/
theorem exists_left_release (d : Machine R) (id : Nat) :
    ∃ allocated, (release id).left d = { d with memory := d.memory.remove id, allocated := allocated } := by
  have released : Post (release id) d
      (fun _ d' => ∃ allocated, d' = { d with memory := d.memory.remove id, allocated := allocated })
      fun _ d' => ∃ allocated, d' = { d with memory := d.memory.remove id, allocated := allocated } := by
    rw [release, post_bind, post_get]
    cases held : d.memory.buffer? id with
    | none =>
      refine ⟨d.allocated, ?_⟩
      rw [Memory.remove_eq_self held]
    | some buffer => exact ⟨_, rfl⟩
  exact left_of_post released

theorem exists_left_perform_of_frees {kind : Kind} {request : Request R kind} {id : Nat}
    (frees : request.frees = some id) (d : Machine R) :
    ∃ allocated, (perform request).left d = { d with memory := d.memory.remove id, allocated := allocated } := by
  cases request with
  | free id' =>
    cases frees
    exact exists_left_release d id
  | _ => cases frees

omit [Scalar R] in
theorem left_read {α : Type} (reader : Step DeviceError (Memory R) α) (d : Machine R) : (read reader).left d = d := by
  have unchanged : Post (read reader) d (fun _ d' => d' = d) fun _ d' => d' = d := by
    apply post_read_of
    · unfold Post
      cases reader d.memory <;> rfl
    · exact fun _ => rfl
  exact left_of_post unchanged

omit [Scalar R] in
theorem read_of_waiting {α : Type} {reader : Step DeviceError (Memory R) α} (alive : d.poisoned = false)
    (waiting : d.queue ≠ []) : read reader d = .error (.error .pending) d := by
  obtain ⟨memory, queue, allocated, capacity, poisoned⟩ := d
  cases alive
  cases queue with
  | nil => exact absurd rfl waiting
  | cons command queue => rfl

/-! ## Allocating and queueing -/

omit [Scalar R] in
/-- What is allocated depends on how much was allocated before, and not on what the buffers hold or which commands
wait. -/
theorem exists_left_allocate (alive : d.poisoned = false) (make : Nat → Buffer R) (bytes length : Nat) :
    ∃ places allocated, (∀ buffer, some buffer ∈ places → buffer = make length) ∧ ∀ memory queue,
      (allocate make bytes length).left { d with memory := memory, queue := queue } =
        { d with memory := memory.extend places, queue := queue, allocated := allocated } := by
  classical
  let places : Array (Option (Buffer R)) :=
    if d.HasRoom length then #[if HostMemory.Fits length bytes then some (make length) else none] else #[]
  let allocated : Nat := if d.HasRoom length then d.allocated + length else d.allocated
  refine ⟨places, allocated, ?_, fun memory queue => ?_⟩
  · intro buffer among
    by_cases room : d.HasRoom length
    · by_cases fits : HostMemory.Fits length bytes
      · simpa [places, room, fits] using among
      · simp [places, room, fits] at among
    · simp [places, room] at among
  · have same : Post (allocate make bytes length) { d with memory := memory, queue := queue }
        (fun _ d' => d' = { d with memory := memory.extend places, queue := queue, allocated := allocated })
        fun _ d' => d' = { d with memory := memory.extend places, queue := queue, allocated := allocated } := by
      rw [allocate, post_bind, post_checkAlive (d := { d with memory := memory, queue := queue }) alive, post_bind]
      apply post_checkRoom
      · intro available
        have room : d.HasRoom length := available
        have sum : allocated = d.allocated + length := if_pos room
        rw [post_bind, post_get, sum]
        dsimp only
        split
        · next fits =>
          have grown : memory.extend places = memory.push (make length) := by
            simp [places, room, fits, Memory.push_eq_extend]
          rw [grown]
          rfl
        · next large =>
          have skipped : memory.extend places = memory.skip := by simp [places, room, large, Memory.skip_eq_extend]
          rw [skipped]
          rfl
      · intro available full
        have none : ¬ d.HasRoom length := full
        simp [places, allocated, none]
    exact left_of_post same

omit [Scalar R] in
theorem left_enqueue (alive : d.poisoned = false) (command : Command R) :
    (enqueue command).left d = { d with queue := d.queue ++ [command] } := by
  rw [left, enqueue, checkAlive_bind alive]
  rfl

end Machine

end Device

end BinaryQuadratic
