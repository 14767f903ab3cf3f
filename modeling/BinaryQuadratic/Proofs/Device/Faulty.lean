import BinaryQuadratic.Device.Faulty
import BinaryQuadratic.Proofs.Device.Command
import BinaryQuadratic.Proofs.Device.Machine

/-!
# Requests that may fail by plan

A step on a machine whose requests may fail by plan is described by an attempt (`Attempt`): of what it does to the
machine if it succeeds, of what it leaves if it ends with an error, and of what would have made it succeed had the plan
named no further requests. After a crash the machine counts as lost, and nothing else is said. Attempts follow each
other (`Attempt.bind`), so faults are looked at once, request by request, and never again.
-/

namespace BinaryQuadratic.Device

open Step

variable {R : Type}

/-! ## The machine behind the plan -/

namespace Guarded

variable {g g' g'' : Guarded (Faulty (Machine R) R)} {d d' : Machine R}

/-- The machine that answers the requests that do not fail by plan. -/
def machine (g : Guarded (Faulty (Machine R) R)) : Machine R := g.device.device

/-- No further request fails by plan. -/
def Quiet (g : Guarded (Faulty (Machine R) R)) : Prop := ∀ k, g.device.count ≤ k → g.device.plan k = none

/-- No request crashes by plan. -/
def Steady (g : Guarded (Faulty (Machine R) R)) : Prop := ∀ k, g.device.plan k ≠ some .crash

/-- Some requests later, and with this machine behind the plan. -/
structure Onward (g : Guarded (Faulty (Machine R) R)) (d : Machine R) (g' : Guarded (Faulty (Machine R) R)) : Prop where
  machine : g'.machine = d
  lost : g'.lost = g.lost
  plan : g'.device.plan = g.device.plan
  count : g.device.count ≤ g'.device.count

theorem Onward.refl (g : Guarded (Faulty (Machine R) R)) : Onward g g.machine g := ⟨rfl, rfl, rfl, Nat.le_refl _⟩

theorem Onward.trans (h : Onward g d g') (h' : Onward g' d' g'') : Onward g d' g'' :=
  ⟨h'.machine, h'.lost.trans h.lost, h'.plan.trans h.plan, Nat.le_trans h.count h'.count⟩

theorem Onward.quiet (h : Onward g d g') (quiet : g.Quiet) : g'.Quiet := fun k later => by
  rw [h.plan]
  exact quiet k (Nat.le_trans h.count later)

end Guarded

/-! ## Attempts -/

/-- What holds after a step of which any request may fail by plan: `ok` of its result and of the machine, `left` of the
machine after an error. The step only ends early if a request failed by plan, or if it was not `fine`. -/
def Attempt {α : Type} (step : Step DeviceError (Guarded (Faulty (Machine R) R)) α)
    (g : Guarded (Faulty (Machine R) R)) (fine : Prop) (ok : α → Machine R → Prop) (left : Machine R → Prop) : Prop :=
  Post step g (fun a g' => ∃ d, g.Onward d g' ∧ ok a d) fun ending g' =>
    (¬ (g.Quiet ∧ fine) ∧ g'.device.plan = g.device.plan) ∧
      if ending = .crash then g'.lost = true else ∃ d, g.Onward d g' ∧ left d

namespace Attempt

variable {α β : Type} {step : Step DeviceError (Guarded (Faulty (Machine R) R)) α}
  {g : Guarded (Faulty (Machine R) R)} {fine fine' : Prop} {ok ok' : α → Machine R → Prop}
  {left left' : Machine R → Prop}

theorem pure {a : α} (h : ok a g.machine) : Attempt (pure a) g fine ok left := ⟨g.machine, .refl g, h⟩

theorem fail {cause : DeviceError} (h : left g.machine) (blame : ¬ fine) : Attempt (Step.fail cause) g fine ok left :=
  ⟨⟨fun both => blame both.2, rfl⟩, g.machine, .refl g, h⟩

theorem mono (h : Attempt step g fine ok left) (enough : fine' → fine) (done : ∀ a d, ok a d → ok' a d)
    (failed : ∀ d, left d → left' d) : Attempt step g fine' ok' left' := by
  refine Post.mono h ?_ ?_
  · rintro a g' ⟨d, onward, holds⟩
    exact ⟨d, onward, done a d holds⟩
  · rintro ending g' ⟨⟨blame, plan⟩, ended⟩
    refine ⟨⟨fun both => blame ⟨both.1, enough both.2⟩, plan⟩, ?_⟩
    split at ended
    · next crash => rwa [if_pos crash]
    · next other =>
      obtain ⟨d, onward, holds⟩ := ended
      rw [if_neg other]
      exact ⟨d, onward, failed d holds⟩

/-- One attempt after another, on the machine that the first one leaves. -/
theorem bind {next : α → Step DeviceError (Guarded (Faulty (Machine R) R)) β} {ok' : β → Machine R → Prop}
    (h : Attempt step g fine ok left) (h' : ∀ a g', ok a g'.machine → Attempt (next a) g' fine ok' left) :
    Attempt (step >>= next) g fine ok' left := by
  refine post_bind.2 (Post.mono h ?_ fun _ _ ended => ended)
  rintro a g' ⟨d, onward, holds⟩
  obtain rfl := onward.machine
  refine Post.mono (h' a g' holds) ?_ ?_
  · rintro b g'' ⟨d', onward', holds'⟩
    exact ⟨d', onward.trans onward', holds'⟩
  · rintro ending g'' ⟨⟨blame, plan⟩, ended⟩
    refine ⟨⟨fun both => blame ⟨onward.quiet both.1, both.2⟩, plan.trans onward.plan⟩, ?_⟩
    split at ended
    · next crash => rwa [if_pos crash]
    · next other =>
      obtain ⟨d', onward', holds'⟩ := ended
      rw [if_neg other]
      exact ⟨d', onward.trans onward', holds'⟩

/-- An attempt that is followed by a cleanup if it fails. -/
theorem orCleanup {cleanup : Step DeviceError (Guarded (Faulty (Machine R) R)) Unit} (h : Attempt step g fine ok left)
    (h' : ∀ g', left g'.machine → Attempt cleanup g' False (fun _ d => left' d) fun _ => False) :
    Attempt (step.orCleanup cleanup) g fine ok left' := by
  refine post_orCleanup.2 (Post.mono h (fun _ _ done => done) ?_)
  rintro ending g' ⟨⟨blame, plan⟩, ended⟩
  cases ending with
  | crash => exact ⟨⟨blame, plan⟩, ended⟩
  | error cause =>
    obtain ⟨d, onward, holds⟩ := ended
    obtain rfl := onward.machine
    refine Post.mono (h' g' holds) ?_ ?_
    · rintro _ g'' ⟨d', onward', holds'⟩
      exact ⟨⟨blame, (onward.trans onward').plan⟩, d', onward.trans onward', holds'⟩
    · rintro ending g'' ⟨⟨-, plan'⟩, ended⟩
      refine ⟨⟨blame, plan'.trans plan⟩, ?_⟩
      split at ended
      · next crash => rwa [if_pos crash]
      · obtain ⟨_, _, never⟩ := ended
        exact never.elim

end Attempt

/-! ## Requests -/

namespace Machine

variable {d : Machine R}

/-- The machine with another command in its queue. -/
def queued (d : Machine R) (command : Command R) : Machine R := { d with queue := d.queue ++ [command] }

/-- The machine after its queue was run. -/
def drained (d : Machine R) (memory : Memory R) : Machine R := { d with memory := memory, queue := [] }

end Machine

namespace Guarded

variable {g : Guarded (Faulty (Machine R) R)}

/-- The machine behind the plan after one more request. -/
def counted (g : Guarded (Faulty (Machine R) R)) {kind : Kind} (request : Request R kind) (d : Machine R) :
    Guarded (Faulty (Machine R) R) :=
  { g with
    device := { g.device with device := d, count := g.device.count + 1, log := ⟨kind, request⟩ :: g.device.log } }

theorem onward_counted (g : Guarded (Faulty (Machine R) R)) {kind : Kind} (request : Request R kind) (d : Machine R) :
    g.Onward d (g.counted request d) := ⟨rfl, rfl, rfl, Nat.le_succ _⟩

theorem not_quiet {halt : Halt DeviceError} (planned : g.device.plan g.device.count = some halt) {fine : Prop} :
    ¬ (g.Quiet ∧ fine) := fun both => Option.some_ne_none _ (planned.symm.trans (both.1 _ (Nat.le_refl _)))

/-- A request, by the plan and by what the machine answers. -/
theorem post_perform_faulty [Scalar R] {kind : Kind} {request : Request R kind}
    {ok : kind.Answer R → Guarded (Faulty (Machine R) R) → Prop}
    {halt : Halt DeviceError → Guarded (Faulty (Machine R) R) → Prop} :
    Post (Provider.perform request) g ok halt ↔
      match g.device.plan g.device.count with
      | some (.error cause) => halt (.error cause) (g.counted request g.machine)
      | some .crash => halt .crash { g.counted request g.machine with lost := true }
      | none => Post (Machine.perform request) g.machine (fun a d => ok a (g.counted request d)) fun ending d =>
          match ending with
          | .error cause => halt (.error cause) (g.counted request d)
          | .crash => halt .crash { g.counted request d with lost := true } := by
  obtain ⟨⟨device, name, plan, count, log⟩, lost⟩ := g
  unfold Post
  simp only [Provider.perform, Guarded.perform, Faulty.perform, machine]
  cases plan count with
  | some halt => cases halt <;> rfl
  | none =>
    dsimp only
    cases Machine.perform request device with
    | ok a d => rfl
    | error ending d => cases ending <;> rfl

end Guarded

namespace Attempt

variable [Scalar R] {g : Guarded (Faulty (Machine R) R)}

/-- A request, by what the machine answers. -/
theorem request {kind : Kind} {request : Request R kind} {fine : Prop} {ok : kind.Answer R → Machine R → Prop}
    {left : Machine R → Prop} (self : left g.machine)
    (h : Post (Machine.perform request) g.machine ok fun ending d => ¬ fine ∧ (ending ≠ .crash → left d)) :
    Attempt (Provider.perform request) g fine ok left := by
  refine Guarded.post_perform_faulty.2 ?_
  split
  · next cause planned =>
    exact ⟨⟨Guarded.not_quiet planned, rfl⟩, g.machine, Guarded.onward_counted g request g.machine, self⟩
  · next planned => exact ⟨⟨Guarded.not_quiet planned, rfl⟩, rfl⟩
  · refine h.mono (fun a d holds => ⟨d, Guarded.onward_counted g request d, holds⟩) ?_
    rintro ending d ⟨blame, ended⟩
    cases ending with
    | error cause =>
      refine ⟨⟨fun both => blame both.2, rfl⟩, d, Guarded.onward_counted g request d, ended ?_⟩
      exact fun crash => by cases crash
    | crash => exact ⟨⟨fun both => blame both.2, rfl⟩, rfl⟩

/-- Queueing a command is only refused on a machine that was lost. -/
theorem enqueue {request : Request R .done} {command : Command R}
    (form : Machine.perform request = Machine.enqueue command) :
    Attempt (Provider.perform request) g (g.machine.poisoned = false)
      (fun _ d => d = g.machine.queued command ∧ g.machine.poisoned = false) (· = g.machine) := by
  refine Attempt.request rfl ?_
  rw [form, Machine.enqueue, post_bind]
  refine Machine.post_checkAlive_of (fun alive => ⟨rfl, alive⟩) fun cause gone => ?_
  rw [gone]
  exact ⟨(Bool.false_ne_true ·.symm), fun _ => rfl⟩

theorem copy (target : RealHandle) (data : List R) :
    Attempt (Device.copy target data) g (g.machine.poisoned = false)
      (fun _ d => d = g.machine.queued (.copy target data) ∧ g.machine.poisoned = false) (· = g.machine) :=
  enqueue rfl

theorem launch (kernel : Kernel R) :
    Attempt (Device.launch kernel) g (g.machine.poisoned = false)
      (fun _ d => d = g.machine.queued (.launch kernel) ∧ g.machine.poisoned = false) (· = g.machine) :=
  enqueue rfl

/-- A machine that is waited for runs all of its queue, or is lost. -/
theorem synchronize :
    Attempt (Device.synchronize : Step DeviceError (Guarded (Faulty (Machine R) R)) Unit) g
      (g.machine.poisoned = false ∧ ∃ m, Command.runAll g.machine.queue g.machine.memory = .ok () m)
      (fun _ d => g.machine.poisoned = false ∧
        ∃ m, Command.runAll g.machine.queue g.machine.memory = .ok () m ∧ d = g.machine.drained m)
      (fun d => d = g.machine ∨ d.poisoned = true) := by
  refine Attempt.request (Or.inl rfl) ?_
  rw [Machine.perform, post_bind]
  refine Machine.post_checkAlive_of (fun alive => ?_) fun cause gone => ?_
  · cases run : Command.runAll g.machine.queue g.machine.memory with
    | ok _ m =>
      have drained : Machine.drain g.machine = .ok () (g.machine.drained m) := by rw [Machine.drain, run]; rfl
      exact post_of_eq_ok drained ⟨alive, m, rfl, rfl⟩
    | error ending m =>
      have drained : Machine.drain g.machine =
          .error ending { g.machine with memory := m, queue := [], poisoned := true } := by rw [Machine.drain, run]
      refine post_of_eq_error drained ⟨?_, fun _ => Or.inr rfl⟩
      rintro ⟨-, m', done⟩
      cases done
  · rw [gone]
    exact ⟨fun both => Bool.false_ne_true both.1.symm, fun _ => Or.inl rfl⟩

/-- Reading leaves the machine as it is. -/
theorem read {kind : Kind} {request : Request R kind} {reader : Step DeviceError (Memory R) (kind.Answer R)}
    {a : kind.Answer R} (form : Machine.perform request = Machine.read reader) (idle : g.machine.queue = [])
    (h : Post reader g.machine.memory (fun b _ => b = a) fun _ _ => False) :
    Attempt (Provider.perform request) g (g.machine.poisoned = false) (fun b d => b = a ∧ d = g.machine)
      (· = g.machine) := by
  refine Attempt.request rfl ?_
  obtain ⟨b, m, done, rfl⟩ := h.exists_ok
  rw [form]
  cases state : g.machine.poisoned with
  | false =>
    refine post_of_eq_ok ((Machine.read_eq state idle).trans ?_) ⟨rfl, rfl⟩
    rw [done]
  | true =>
    rw [Machine.read, post_bind]
    exact Machine.post_checkAlive_of (fun alive => absurd state (Bool.eq_false_iff.1 alive)) fun _ _ =>
      ⟨(Bool.false_ne_true ·.symm), fun _ => rfl⟩

theorem readReals {source : RealHandle} {values : List R} {length : Nat} (idle : g.machine.queue = [])
    (h : g.machine.memory.HasReals source values) (enough : length ≤ values.length) :
    Attempt (Device.readReals source length) g (g.machine.poisoned = false)
      (fun read d => read = values.take length ∧ d = g.machine) (· = g.machine) :=
  read rfl idle ((Memory.post_readReals h enough).2 rfl)

theorem readIndices {source : IndexHandle} {values : List Index} {length : Nat} (idle : g.machine.queue = [])
    (h : g.machine.memory.HasIndices source values) (enough : length ≤ values.length) :
    Attempt (Device.readIndices source length) g (g.machine.poisoned = false)
      (fun read d => read = values.take length ∧ d = g.machine) (· = g.machine) :=
  read rfl idle ((Memory.post_readIndices h enough).2 rfl)

/-! ### Allocating -/

/-- A buffer gets the next number, if there is room for it and a block of host memory can hold it. -/
theorem allocate {kind : Kind} {request : Request R kind} {wrap : Nat → kind.Answer R} (make : Nat → Buffer R)
    {bytes length : Nat} (measured : (make length).length = length)
    (form : Machine.perform request = do return wrap (← Machine.allocate make bytes length)) :
    Attempt (Provider.perform request) g (g.machine.poisoned = false ∧ g.machine.Accepts bytes length)
      (fun a d => a = wrap g.machine.memory.slots.size ∧ d = g.machine.grown [make length] ∧ g.machine.poisoned = false)
      (· = g.machine) := by
  refine Attempt.request rfl ?_
  rw [form, post_bind]
  cases state : g.machine.poisoned with
  | false =>
    refine (Machine.allocate_spec state make bytes length).mono ?_ ?_
    · rintro _ _ ⟨rfl, rfl⟩
      refine ⟨rfl, ?_, rfl⟩
      rw [Machine.grown, Buffer.total_cons, Buffer.total_nil, measured]
      rfl
    · rintro ending d ⟨refused, same⟩
      exact ⟨fun both => refused.not_accepts both.2, same⟩
  | true =>
    rw [Machine.allocate, post_bind]
    exact Machine.post_checkAlive_of (fun alive => absurd state (Bool.eq_false_iff.1 alive)) fun _ _ =>
      ⟨fun both => Bool.false_ne_true both.1.symm, fun _ => rfl⟩

theorem allocReals (length : Nat) :
    Attempt (Device.allocReals length) g (g.machine.poisoned = false ∧ g.machine.Accepts (Scalar.bytes R) length)
      (fun a d => a = ⟨g.machine.memory.slots.size⟩ ∧ d = g.machine.grown [.reals (List.replicate length 0)] ∧
        g.machine.poisoned = false)
      (· = g.machine) :=
  allocate (fun k => .reals (List.replicate k 0)) List.length_replicate rfl

theorem allocIndices (length : Nat) :
    Attempt (Device.allocIndices length) g
      (g.machine.poisoned = false ∧ g.machine.Accepts HostMemory.wordBytes length)
      (fun a d => a = ⟨g.machine.memory.slots.size⟩ ∧ d = g.machine.grown [.indices (List.replicate length 0)] ∧
        g.machine.poisoned = false)
      (· = g.machine) :=
  allocate (fun k => .indices (List.replicate k 0)) List.length_replicate rfl

end Attempt

/-! ### Freeing -/

/-- What freeing buffers leaves of a machine: its queue, and all other buffers. -/
structure Machine.Freed (ids : List Nat) (d d' : Machine R) : Prop where
  poisoned : d'.poisoned = d.poisoned
  queue : d'.queue = d.queue
  size : d'.memory.slots.size = d.memory.slots.size
  narrows : Memory.Narrows d.memory d'.memory
  outside : Memory.SameOutside ids d.memory d'.memory

theorem Machine.Freed.refl (ids : List Nat) (d : Machine R) : Freed ids d d :=
  ⟨rfl, rfl, rfl, (Memory.SameShapes.refl _).narrows, .refl ids _⟩

theorem Machine.Freed.cons {id : Nat} {ids : List Nat} {d d' d'' : Machine R} (h : Freed [id] d d')
    (h' : Freed ids d' d'') : Freed (id :: ids) d d'' := by
  refine ⟨h'.poisoned.trans h.poisoned, h'.queue.trans h.queue, h'.size.trans h.size, ⟨?_, ?_⟩, ?_⟩
  · exact Nat.le_of_eq (h'.size.trans h.size).symm
  · intro other low
    rcases h'.narrows.shape (h.size.symm ▸ low) with gone | same
    · exact Or.inl gone
    · rw [same]
      exact h.narrows.shape low
  · intro other outside
    rw [List.mem_cons, not_or] at outside
    exact (h'.outside other outside.2).trans (h.outside other (by simpa using outside.1))

variable [Scalar R] {g : Guarded (Faulty (Machine R) R)}

/-- How a machine is left by freeing that crashed, which only happens by plan. -/
def Guarded.Broken (g : Guarded (Faulty (Machine R) R)) (ending : Halt DeviceError)
    (g' : Guarded (Faulty (Machine R) R)) : Prop :=
  ending = .crash ∧ g'.lost = true ∧ g'.device.plan = g.device.plan ∧ ¬ g.Steady

/-- Whether a buffer is freed or the request for it fails, the others are left as they are. -/
theorem free_faulty_spec (id : Nat) :
    Post (free id).ignoreError g (fun _ g' => ∃ d, g.Onward d g' ∧ Machine.Freed [id] g.machine d) g.Broken := by
  rw [post_ignoreError]
  refine Guarded.post_perform_faulty.2 ?_
  split
  · exact ⟨g.machine, Guarded.onward_counted g _ _, .refl _ _⟩
  · next planned => exact ⟨rfl, rfl, rfl, fun steady => steady _ planned⟩
  · rw [Machine.perform, Machine.release, post_bind, post_get]
    split
    · refine ⟨_, Guarded.onward_counted g _ _, rfl, rfl, by simp [Memory.remove], Memory.narrows_remove _ _, ?_⟩
      intro other outside
      exact (Memory.buffer?_remove _ _ _).trans (if_neg fun same => outside (by simp [same]))
    · exact ⟨g.machine, Guarded.onward_counted g _ _, .refl _ _⟩

/-- The same of several buffers. -/
theorem freeAll_faulty_spec (ids : List Nat) :
    Post (freeAll ids) g (fun _ g' => ∃ d, g.Onward d g' ∧ Machine.Freed ids g.machine d) g.Broken := by
  induction ids generalizing g with
  | nil => exact ⟨g.machine, .refl g, .refl _ _⟩
  | cons id ids ih =>
    rw [freeAll, post_bind]
    refine (free_faulty_spec id).mono ?_ fun _ _ broken => broken
    rintro _ g' ⟨d, onward, freed⟩
    obtain rfl := onward.machine
    refine ih.mono ?_ ?_
    · rintro _ g'' ⟨d', onward', freed'⟩
      exact ⟨d', onward.trans onward', freed.cons freed'⟩
    · rintro ending g'' ⟨crash, lost, plan, unsteady⟩
      refine ⟨crash, lost, plan.trans onward.plan, fun steady => unsteady fun k => ?_⟩
      rw [onward.plan]
      exact steady k

theorem Attempt.freeAll (ids : List Nat) :
    Attempt (Device.freeAll ids) g False (fun _ d => Machine.Freed ids g.machine d) fun _ => False := by
  refine (freeAll_faulty_spec ids).mono (fun _ _ done => done) ?_
  rintro ending g' ⟨rfl, lost, plan, -⟩
  exact ⟨⟨And.right, plan⟩, lost⟩

end BinaryQuadratic.Device
