import BinaryQuadratic.Proofs.Device.Aftermath
import BinaryQuadratic.Proofs.Device.Register

/-!
# Commands that are run at once

A machine lets commands wait and runs them when it is synchronised. Beside it stands a machine that runs every command
when it is asked for (`Machine.performAtOnce`). Requests name only buffers that were given out before, and free none while
commands wait (`Logged.Orderly`). Then at any time the commands that wait lead to what the other machine has
(`Machine.Deferred`): either they will succeed, or the first of them that fails is the one by which the other machine was
lost. So nothing that is read tells the two apart (`Logged.reads_deferred`).
-/

namespace BinaryQuadratic

namespace Device

open Step

variable {R : Type}

namespace Request

/-- The buffers that a request names, by number. -/
def names : {kind : Kind} → Request R kind → List Nat
  | _, .free id => [id]
  | _, .copy target data => (Command.copy target data).operands.map (·.1)
  | _, .launch kernel => (Command.launch kernel).operands.map (·.1)
  | _, .readReals source _ => [source.id]
  | _, .readIndices source _ => [source.id]
  | _, _ => []

end Request

namespace Machine

variable [Scalar R] {d now : Machine R}

/-! ## Running commands at once -/

/-- Runs a command. If it fails the machine is lost. -/
def runAtOnce (command : Command R) : Step DeviceError (Machine R) Unit := do
  checkAlive
  fun device =>
    match command.run device.memory with
    | .ok _ memory => .ok () { device with memory := memory }
    | .error halt memory => .error halt { device with memory := memory, poisoned := true }

theorem left_runAtOnce (alive : d.poisoned = false) (command : Command R) :
    (runAtOnce command).left d =
      match command.run d.memory with
      | .ok _ memory => { d with memory := memory }
      | .error _ memory => { d with memory := memory, poisoned := true } := by
  have run : runAtOnce command d = _ := checkAlive_bind alive _
  rw [left, run]
  cases command.run d.memory <;> rfl

/-- Answers a request. A command is run when it is asked for, and never waits. -/
def performAtOnce : {kind : Kind} → Request R kind → Step DeviceError (Machine R) (kind.Answer R)
  | _, .copy target data => runAtOnce (.copy target data)
  | _, .launch kernel => runAtOnce (.launch kernel)
  | _, request => perform request

/-- Makes several requests, one after the other, whatever comes of them. -/
def serveAllAtOnce (d : Machine R) (requests : List (Σ kind, Request R kind)) : Machine R :=
  requests.foldl (fun d request => (performAtOnce request.2).left d) d

/-! ## Commands that wait -/

/-- Nothing but zeros was ever in these places. -/
def Blank (places : Array (Option (Buffer R))) : Prop :=
  ∀ buffer, some buffer ∈ places → ∃ k, buffer = .reals (List.replicate k 0) ∨ buffer = .indices (List.replicate k 0)

theorem blank_empty : Blank (#[] : Array (Option (Buffer R))) := fun _ none => absurd none (Array.not_mem_empty _)

/-- How a machine stands to one that ran all commands at once. -/
inductive Lags (d now : Machine R) : Prop
  /-- The commands that wait will succeed, and lead to what the other machine has. -/
  | running (memory : Memory R) (alive : d.poisoned = false)
    (ran : Command.runAll d.queue d.memory = .ok () memory) (same : now = { d with memory := memory, queue := [] })
  /-- One of the commands that wait will fail. The other machine was lost by it and gave out no buffers since. -/
  | doomed (ending : Halt DeviceError) (places : Array (Option (Buffer R))) (alive : d.poisoned = false)
    (lost : now.poisoned = true) (blank : Blank places)
    (failed : Command.runAll d.queue d.memory = .error ending (now.memory.extend places))
  /-- Both machines were lost. -/
  | lost (gone : d.poisoned = true) (idle : d.queue = []) (lost : now.poisoned = true)

/-- The commands that wait name buffers that were given out, and lead to what the other machine has. -/
structure Deferred (d now : Machine R) : Prop where
  placed : ∀ command ∈ d.queue, command.Placed d.memory.slots.size
  lags : d.Lags now

namespace Deferred

/-- Where nothing waits there is no difference. -/
theorem eq_of_idle (h : d.Deferred now) (alive : d.poisoned = false) (idle : d.queue = []) : now = d := by
  cases h.lags with
  | running memory _ ran same =>
    rw [idle] at ran
    cases ran
    rw [same, ← idle]
  | doomed ending places _ _ _ failed =>
    rw [idle] at failed
    cases failed
  | lost gone => exact absurd (alive.symm.trans gone) Bool.false_ne_true

theorem lost (gone : d.poisoned = true) (idle : d.queue = []) (lost : now.poisoned = true) : d.Deferred now where
  placed := by simp [idle]
  lags := .lost gone idle lost

/-- A machine in which nothing waits stands to itself as to another one. -/
theorem self (idle : d.queue = []) : d.Deferred d := by
  cases state : d.poisoned with
  | true => exact .lost state idle state
  | false =>
    refine ⟨by simp [idle], .running d.memory state ?_ ?_⟩
    · rw [idle]
      rfl
    · rw [← idle]

theorem alive_of_waiting (h : d.Deferred now) (waiting : d.queue ≠ []) : d.poisoned = false := by
  cases h.lags with
  | running _ alive => exact alive
  | doomed _ _ alive => exact alive
  | lost _ idle => exact absurd idle waiting

theorem lost_of_lost (h : d.Deferred now) (gone : d.poisoned = true) : now.poisoned = true := by
  cases h.lags with
  | running _ alive => exact absurd (alive.symm.trans gone) Bool.false_ne_true
  | doomed _ _ alive => exact absurd (alive.symm.trans gone) Bool.false_ne_true
  | lost _ _ lost => exact lost

/-- Nothing waits in the other machine. -/
theorem idle_of_alive (h : d.Deferred now) (alive : now.poisoned = false) : now.queue = [] := by
  cases h.lags with
  | running _ _ _ same => rw [same]
  | doomed _ _ _ lost => exact absurd (alive.symm.trans lost) Bool.false_ne_true
  | lost _ _ lost => exact absurd (alive.symm.trans lost) Bool.false_ne_true

/-! ### Allocating -/

theorem allocate (h : d.Deferred now) {make : Nat → Buffer R} {bytes length : Nat}
    (zeros : ∃ k, make length = .reals (List.replicate k 0) ∨ make length = .indices (List.replicate k 0)) :
    ((allocate make bytes length).left d).Deferred ((allocate make bytes length).left now) := by
  have unchanged {d : Machine R} (lost : d.poisoned = true) : (Machine.allocate make bytes length).left d = d :=
    left_checkAlive_bind_of_poisoned lost _
  cases h.lags with
  | running memory alive ran same =>
    obtain ⟨places, allocated, -, grows⟩ := exists_left_allocate alive make bytes length
    have lazy : (Machine.allocate make bytes length).left d =
        { d with memory := d.memory.extend places, allocated := allocated } := grows d.memory d.queue
    rw [lazy, same, grows memory []]
    constructor
    · intro command among
      exact (h.placed command among).mono (d.memory.size_le_extend places)
    · exact .running (memory.extend places) alive
        ((Command.blind_runAll h.placed d.memory rfl places).of_ok ran).2 rfl
  | doomed ending places alive lost blank failed =>
    obtain ⟨more, allocated, made, grows⟩ := exists_left_allocate alive make bytes length
    have lazy : (Machine.allocate make bytes length).left d =
        { d with memory := d.memory.extend more, allocated := allocated } := grows d.memory d.queue
    rw [lazy, unchanged lost]
    constructor
    · intro command among
      exact (h.placed command among).mono (d.memory.size_le_extend more)
    · refine .doomed ending (places ++ more) alive lost ?_ ?_
      · intro buffer among
        rcases Array.mem_append.1 among with before | new
        · exact blank buffer before
        · rw [made buffer new]
          exact zeros
      · rw [← Memory.extend_extend]
        exact ((Command.blind_runAll h.placed d.memory rfl more).of_error failed).2
  | lost gone idle lost =>
    rw [unchanged gone, unchanged lost]
    exact h

/-! ### Commands -/

theorem command (h : d.Deferred now) {command : Command R} (placed : command.Placed d.memory.slots.size) :
    ((enqueue command).left d).Deferred ((runAtOnce command).left now) := by
  have waiting : ∀ other ∈ d.queue ++ [command], other.Placed d.memory.slots.size := by
    simpa [or_imp, forall_and] using ⟨h.placed, placed⟩
  cases h.lags with
  | running memory alive ran same =>
    have appended : Command.runAll (d.queue ++ [command]) d.memory = Command.runAll [command] memory := by
      rw [Command.runAll_append, bind_apply, ran]
    rw [left_enqueue alive, same, left_runAtOnce (d := { d with memory := memory, queue := [] }) alive]
    refine ⟨waiting, ?_⟩
    cases run : command.run memory with
    | ok _ memory' =>
      refine .running memory' alive (appended.trans ?_) rfl
      rw [Command.runAll, bind_apply, run]
      rfl
    | error ending memory' =>
      refine .doomed ending #[] alive rfl blank_empty (appended.trans ?_)
      rw [Command.runAll, bind_apply, run, Memory.extend_empty]
  | doomed ending places alive lost blank failed =>
    have unchanged : (runAtOnce command).left now = now := left_checkAlive_bind_of_poisoned lost _
    rw [left_enqueue alive, unchanged]
    refine ⟨waiting, .doomed ending places alive lost blank ?_⟩
    rw [Command.runAll_append, bind_apply, failed]
  | lost gone idle lost =>
    have unchanged : (enqueue command).left d = d := left_checkAlive_bind_of_poisoned gone _
    have unchanged' : (runAtOnce command).left now = now := left_checkAlive_bind_of_poisoned lost _
    rw [unchanged, unchanged']
    exact h

/-- Synchronising catches up with the other machine, or is lost as well. -/
theorem post_synchronize (h : d.Deferred now) (alive : d.poisoned = false) :
    Post (perform .synchronize) d (fun _ d' => d' = now ∧ now.poisoned = false)
      fun _ d' => d'.poisoned = true ∧ d'.queue = [] ∧ now.poisoned = true ∧
        ∃ places, Blank places ∧ d'.memory = now.memory.extend places := by
  have drained : perform .synchronize d = drain d := checkAlive_bind alive _
  cases h.lags with
  | running memory _ ran same =>
    refine post_of_eq_ok (drained.trans (by rw [drain, ran])) ?_
    rw [same]
    exact ⟨rfl, alive⟩
  | doomed ending places _ lost blank failed =>
    refine post_of_eq_error (drained.trans (by rw [drain, failed])) ?_
    exact ⟨rfl, rfl, lost, places, blank, rfl⟩
  | lost gone => exact absurd (alive.symm.trans gone) Bool.false_ne_true

/-- A machine that cannot be synchronised is lost. -/
theorem poisoned_of_failed (h : d.Deferred now) {ending : Halt DeviceError} {d' : Machine R}
    (failed : perform .synchronize d = .error ending d') : d'.poisoned = true := by
  cases state : d.poisoned with
  | true =>
    rw [perform_of_poisoned state rfl] at failed
    cases failed
    exact state
  | false => exact ((h.post_synchronize state).of_error failed).1

/-- Where nothing waits there is nothing to synchronise. -/
theorem left_synchronize_of_idle (idle : d.queue = []) : (perform .synchronize).left d = d := by
  obtain ⟨memory, queue, allocated, capacity, poisoned⟩ := d
  cases idle
  cases poisoned <;> rfl

theorem synchronize (h : d.Deferred now) :
    ((perform .synchronize).left d).Deferred ((perform .synchronize).left now) := by
  have unchanged : (perform .synchronize).left now = now := by
    cases state : now.poisoned with
    | true => exact left_perform_of_poisoned state rfl
    | false => exact left_synchronize_of_idle (h.idle_of_alive state)
  rw [unchanged]
  cases state : d.poisoned with
  | true =>
    rw [left_perform_of_poisoned state rfl]
    exact h
  | false =>
    have after : Post (perform .synchronize) d (fun _ d' => d'.Deferred now) fun _ d' => d'.Deferred now := by
      refine (h.post_synchronize state).mono ?_ ?_
      · intro _ d' caught
        rw [caught.1]
        exact self (h.idle_of_alive caught.2)
      · intro _ d' missed
        obtain ⟨gone, idle, lost, -⟩ := missed
        exact .lost gone idle lost
    exact left_of_post after

/-! ### Freeing -/

theorem release (h : d.Deferred now) (idle : d.queue = []) (id : Nat) :
    ((release id).left d).Deferred ((release id).left now) := by
  obtain ⟨allocated, freed⟩ := exists_left_release d id
  cases state : d.poisoned with
  | true =>
    obtain ⟨allocated', freed'⟩ := exists_left_release now id
    rw [freed, freed']
    exact .lost state idle (h.lost_of_lost state)
  | false =>
    rw [h.eq_of_idle state idle, freed]
    exact self idle

/-! ### Reading -/

/-- What is read is what the other machine holds. -/
theorem holds_of_read (h : d.Deferred now) {α : Type} {reader : Step DeviceError (Memory R) α}
    (holds : α → Memory R → Prop) (held : ∀ m, Post reader m (fun a _ => holds a m) fun _ _ => True) {a : α}
    {d' : Machine R} (done : read reader d = .ok a d') : holds a now.memory := by
  cases state : d.poisoned with
  | true =>
    rw [read, checkAlive_bind_of_poisoned state] at done
    cases done
  | false =>
    cases waiting : d.queue with
    | cons command queue =>
      rw [read_of_waiting state (by simp [waiting])] at done
      cases done
    | nil =>
      rw [h.eq_of_idle state waiting]
      rw [read_eq state waiting] at done
      cases read : reader d.memory with
      | ok b m =>
        rw [read] at done
        cases done
        exact (held d.memory).of_ok read
      | error ending m =>
        rw [read] at done
        cases done

/-! ### Any request -/

/-- Every request leaves the two machines as they stood to each other. -/
theorem serve (h : d.Deferred now) {kind : Kind} (request : Request R kind)
    (placed : ∀ id ∈ request.names, id < d.memory.slots.size) (idle : request.frees.isSome = true → d.queue = []) :
    ((perform request).left d).Deferred ((performAtOnce request).left now) := by
  cases request with
  | allocReals length =>
    have allocated (d : Machine R) : (perform (.allocReals length)).left d = _ := left_bind_pure _ _
    show Deferred _ ((perform (.allocReals length)).left now)
    rw [allocated, allocated]
    exact h.allocate ⟨length, .inl rfl⟩
  | allocIndices length =>
    have allocated (d : Machine R) : (perform (.allocIndices length)).left d = _ := left_bind_pure _ _
    show Deferred _ ((perform (.allocIndices length)).left now)
    rw [allocated, allocated]
    exact h.allocate ⟨length, .inr rfl⟩
  | free id => exact h.release (idle rfl) id
  | copy target data =>
    apply h.command
    intro operand among
    exact placed operand.1 (List.mem_map_of_mem among)
  | launch kernel =>
    apply h.command
    intro operand among
    exact placed operand.1 (List.mem_map_of_mem among)
  | synchronize => exact h.synchronize
  | readReals source length =>
    show Deferred _ ((perform (.readReals source length)).left now)
    rw [perform, left_read, left_read]
    exact h
  | readIndices source length =>
    show Deferred _ ((perform (.readIndices source length)).left now)
    rw [perform, left_read, left_read]
    exact h

end Deferred

end Machine

/-! ## Orderly requests -/

namespace Logged

variable [Scalar R] {s : Logged R} {capacity : Option Nat} {now : Machine R}

/-- The request names only buffers that were given out, and frees none while commands wait. -/
structure Admits (s : Logged R) (request : Σ kind, Request R kind) : Prop where
  given : ∀ id ∈ request.2.names, id ∈ s.register.given
  idle : request.2.frees.isSome = true → s.machine.queue = []

/-- Each of several requests is admitted where it is made. -/
def Orderly : Logged R → List (Σ kind, Request R kind) → Prop
  | _, [] => True
  | s, request :: rest => s.Admits request ∧ Orderly (s.serve request) rest

theorem machine_serve (s : Logged R) (request : Σ kind, Request R kind) :
    (s.serve request).machine = (Machine.perform request.2).left s.machine := by
  unfold serve left
  cases Machine.perform request.2 s.machine <;> rfl

theorem deferred_serveAll (agrees : s.register.Agrees capacity s.machine) (h : s.machine.Deferred now)
    {requests : List (Σ kind, Request R kind)} (orderly : s.Orderly requests) :
    (s.serveAll requests).machine.Deferred (now.serveAllAtOnce requests) := by
  induction requests generalizing s now with
  | nil => exact h
  | cons request requests ih =>
    obtain ⟨admitted, rest⟩ := orderly
    have placed (id : Nat) (among : id ∈ request.2.names) : id < s.machine.memory.slots.size :=
      agrees.low id (admitted.given id among)
    have next := h.serve request.2 placed admitted.idle
    rw [← machine_serve] at next
    exact ih (agrees_serve agrees request) next rest

/-- Once the machine is lost nothing happens any more but that buffers are freed. -/
theorem serveAll_of_poisoned (lost : s.machine.poisoned = true) (later : List (Σ kind, Request R kind)) :
    (s.serveAll later).machine.poisoned = true ∧ (s.serveAll later).machine.memory =
      (later.filterMap fun request => request.2.frees).foldl Memory.remove s.machine.memory := by
  induction later generalizing s with
  | nil => exact ⟨lost, rfl⟩
  | cons request later ih =>
    have first := machine_serve s request
    rw [serveAll, List.foldl_cons, List.filterMap_cons]
    cases freed : request.2.frees with
    | none =>
      rw [Machine.left_perform_of_poisoned lost freed] at first
      have rest := ih (s := s.serve request) (by rw [first]; exact lost)
      rwa [first] at rest
    | some id =>
      obtain ⟨allocated, removed⟩ := Machine.exists_left_perform_of_frees freed s.machine
      rw [removed] at first
      have rest := ih (s := s.serve request) (by rw [first]; exact lost)
      rwa [first] at rest

/-- **Waiting makes no difference.** Any requests are made of a machine with any capacity or none, such that they name
only buffers that were given out before, and free none while commands wait. The same requests are made of a machine that
runs every copy and every kernel when it is asked for. As long as the machine is not lost, it is the other one whenever
nothing waits. Whatever is read, the other machine holds. While commands wait, reading is refused as pending.
Synchronising catches up with the other machine; it fails only if that one was lost, and then leaves what that one had,
and zeros in buffers that were allocated since. Once it failed, nothing happens any more but that buffers are freed: every
other request is refused, as the machine is lost. -/
theorem reads_deferred (capacity : Option Nat) (requests : List (Σ kind, Request R kind))
    (orderly : (fresh capacity : Logged R).Orderly requests) :
    let s := (fresh capacity : Logged R).serveAll requests
    let now := (Machine.empty capacity : Machine R).serveAllAtOnce requests
    (s.machine.poisoned = false → s.machine.queue = [] → s.machine = now) ∧
    (∀ source length values d, Machine.perform (.readReals source length) s.machine = .ok values d →
      ∃ held, now.memory.HasReals source held ∧ length ≤ held.length ∧ values = held.take length) ∧
    (∀ source length values d, Machine.perform (.readIndices source length) s.machine = .ok values d →
      ∃ held, now.memory.HasIndices source held ∧ length ≤ held.length ∧ values = held.take length) ∧
    (s.machine.queue ≠ [] → ∀ length,
      (∀ source, Machine.perform (.readReals source length) s.machine = .error (.error .pending) s.machine) ∧
      ∀ source, Machine.perform (.readIndices source length) s.machine = .error (.error .pending) s.machine) ∧
    (s.machine.poisoned = false → Post (Machine.perform .synchronize) s.machine (fun _ d => d = now) fun _ d =>
      now.poisoned = true ∧ ∃ places, Machine.Blank places ∧ d.memory = now.memory.extend places) ∧
    ∀ ending d, Machine.perform .synchronize s.machine = .error ending d →
      ∀ later, let after := ((s.serve ⟨_, .synchronize⟩).serveAll later).machine
        after.memory = (later.filterMap fun request => request.2.frees).foldl Memory.remove d.memory ∧
        ∀ kind (request : Request R kind), request.frees = none →
          Machine.perform request after = .error (.error .poisoned) after := by
  intro s now
  have start : (fresh capacity : Logged R).register.Agrees capacity (fresh capacity : Logged R).machine := .fresh capacity
  have deferred : s.machine.Deferred now := deferred_serveAll start (.self rfl) orderly
  refine ⟨?_, ?_, ?_, ?_, ?_, ?_⟩
  · intro alive idle
    exact (deferred.eq_of_idle alive idle).symm
  · intro source length values d read
    apply deferred.holds_of_read (fun values m =>
      ∃ held, m.HasReals source held ∧ length ≤ held.length ∧ values = held.take length) _ read
    intro m
    exact Memory.post_readReals_of (fun held same enough => ⟨held, same, enough, rfl⟩) fun _ => trivial
  · intro source length values d read
    apply deferred.holds_of_read (fun values m =>
      ∃ held, m.HasIndices source held ∧ length ≤ held.length ∧ values = held.take length) _ read
    intro m
    exact Memory.post_readIndices_of (fun held same enough => ⟨held, same, enough, rfl⟩) fun _ => trivial
  · intro waiting length
    have alive := deferred.alive_of_waiting waiting
    exact ⟨fun source => Machine.read_of_waiting alive waiting, fun source => Machine.read_of_waiting alive waiting⟩
  · intro alive
    exact (deferred.post_synchronize alive).mono (fun _ _ caught => caught.1) fun _ _ missed => missed.2.2
  · intro ending d failed later after
    have gone : d.poisoned = true := deferred.poisoned_of_failed failed
    have next : (s.serve ⟨_, .synchronize⟩).machine = d := by
      rw [machine_serve, left, failed]
    obtain ⟨lost, memory⟩ := serveAll_of_poisoned (s := s.serve ⟨_, .synchronize⟩) (by rw [next]; exact gone) later
    rw [next] at memory
    exact ⟨memory, fun kind request keeps => Machine.perform_of_poisoned lost keeps⟩

instance (s : Logged R) (request : Σ kind, Request R kind) : Decidable (s.Admits request) :=
  decidable_of_iff ((∀ id ∈ request.2.names, id ∈ s.register.given) ∧
      (request.2.frees.isSome = true → s.machine.queue = []))
    ⟨fun both => ⟨both.1, both.2⟩, fun admitted => ⟨admitted.given, admitted.idle⟩⟩

instance decidableOrderly : (s : Logged R) → (requests : List (Σ kind, Request R kind)) → Decidable (s.Orderly requests)
  | _, [] => isTrue trivial
  | s, request :: rest =>
    have := decidableOrderly (s.serve request) rest
    inferInstanceAs (Decidable (s.Admits request ∧ (s.serve request).Orderly rest))

/-- The least of two numbers is written over the first of them. Between the two commands a buffer is allocated. -/
def overwriting : List (Σ kind, Request Float kind) :=
  [⟨_, .allocReals 2⟩, ⟨_, .copy ⟨0⟩ [2, 1]⟩, ⟨_, .allocReals 1⟩, ⟨_, .launch (.reduceLeast ⟨0⟩ 2 ⟨0⟩)⟩,
    ⟨_, .synchronize⟩]

/-- A further copy is too long for its buffer, and the machine is lost. -/
theorem reads_deferred_overwriting :
    let requests := overwriting ++ [⟨_, .copy ⟨1⟩ [3, 4]⟩]
    let s := (fresh none : Logged Float).serveAll requests
    let after := ((s.serve ⟨_, .synchronize⟩).serveAll [⟨_, .copy ⟨0⟩ [5]⟩, ⟨_, .free 1⟩]).machine
    ((fresh none : Logged Float).Orderly overwriting ∧
      ∃ held, ((Machine.empty none).serveAllAtOnce overwriting).memory.HasReals ⟨0⟩ held ∧ [1, 1] = held.take 2) ∧
    ((fresh none : Logged Float).Orderly requests ∧ s.machine.queue ≠ [] ∧
      Machine.perform (.readReals ⟨0⟩ 2) s.machine = .error (.error .pending) s.machine ∧
      Machine.perform (.readReals ⟨0⟩ 2) after = .error (.error .poisoned) after) := by
  intro requests s after
  have orderly : (fresh none : Logged Float).Orderly overwriting := by decide +kernel
  have orderly' : (fresh none : Logged Float).Orderly requests := by decide +kernel
  obtain ⟨-, reals, -⟩ := reads_deferred none overwriting orderly
  obtain ⟨-, -, -, pending, -, refused⟩ := reads_deferred none requests orderly'
  constructor
  · obtain ⟨held, same, -, front⟩ := reals ⟨0⟩ 2 [1, 1] ((fresh none : Logged Float).serveAll overwriting).machine rfl
    exact ⟨orderly, held, same, front⟩
  · have waiting : s.machine.queue ≠ [] := by
      intro idle
      cases idle
    obtain ⟨-, lost⟩ := refused (.error (.bufferTooSmall 1 1 2)) (s.serve ⟨_, .synchronize⟩).machine rfl
      [⟨_, .copy ⟨0⟩ [5]⟩, ⟨_, .free 1⟩]
    exact ⟨orderly', waiting, (pending waiting 2).1 ⟨0⟩, lost _ (.readReals ⟨0⟩ 2) rfl⟩

end Logged

end Device

end BinaryQuadratic
