import BinaryQuadratic.Proofs.Backend.DeviceLedger
import BinaryQuadratic.Proofs.Device.History
import BinaryQuadratic.Proofs.Recovery
import BinaryQuadratic.Proofs.Solver.Staffed

/-!
# Whose buffers there are

On a device whose requests fail by plan, the buffers that exist are always those of the workers in the pool, six for
each, and nothing is freed that does not exist (`faulty_buffers_owned`). This holds after every call, however it ended,
and on a poisoned device as on any other. It takes two things of those who fail the requests: none of them crashes, and
freeing a buffer is not among those that fail by plan.
-/

namespace BinaryQuadratic.Solver

open Step

/-! ## Calls that leave no workers -/

section Clears

variable {B R W : Type} [Scalar R] [Backend B R W] {s : Solver B R W} {excused : B → Prop} {account : B → List W → Prop}
  {built : Matrix R → UInt64 → W → Prop}

/-- The workers are given up, or were to be replaced and could not be. -/
def Call.clears : Call R → Outcome R → Prop
  | .release, _ => True
  | .setProblem _ _, outcome => outcome.isOk = true
  | .prepare, outcome => outcome.isOk = false
  | _, _ => False

/-- The pool is empty after such a call, unless the backend is excused. -/
theorem pool_of_clears (h : Backend.Ledger excused account built) (staffed : s.Staffed account built) {call : Call R}
    (clears : call.clears (s.answer call).1) : excused (s.answer call).2.backend ∨ (s.answer call).2.pool = [] := by
  cases call with
  | release =>
    refine (answer_iff .release fun _ s' => excused s'.backend ∨ s'.pool = []).2 ?_
    rw [perform, post_bind]
    refine (release_staffed h staffed).mono ?_ fun _ _ lost => Or.inl lost
    rintro _ s' ⟨-, empty, -⟩
    exact Or.inr empty
  | setProblem weights direction =>
    refine (answer_iff (.setProblem weights direction) fun outcome s' => outcome.isOk = true →
      excused s'.backend ∨ s'.pool = []).2 ?_ clears
    rw [perform, post_bind]
    refine (setProblem_staffed h weights direction staffed).mono ?_ fun _ _ _ failed => absurd failed Bool.false_ne_true
    rintro _ s' ⟨-, empty, -⟩ -
    exact Or.inr empty
  | prepare =>
    refine (answer_iff .prepare fun outcome s' => outcome.isOk = false → excused s'.backend ∨ s'.pool = []).2 ?_ clears
    rw [perform, post_bind]
    cases posed : s.problem with
    | none =>
      have missing : s.lifecycle.hasProblem = false := by rw [staffed.hasProblem, posed]; rfl
      refine (outOfOrder_prepare missing).post fun _ _ => Or.inr (staffed.idle ?_)
      rw [← Option.not_isSome_iff_eq_none, ← staffed.isPrepared]
      intro prepared
      rw [Lifecycle.hasProblem_of_isPrepared prepared] at missing
      exact Bool.false_ne_true missing.symm
    | some p =>
      refine (prepare_staffed h staffed posed).mono (fun _ _ _ failed => absurd failed.symm Bool.false_ne_true) ?_
      rintro _ s' (lost | ⟨-, empty, -⟩) -
      · exact Or.inl lost
      · exact Or.inr empty
  | _ => exact False.elim clears

end Clears

/-! ## On a device that fails -/

namespace OnFaultyDevice

open Device

variable {R : Type} [Scalar R] {capacity : Option Nat} {plan : FaultPlan} {workers : Count}

/-- The provider that requests are made of, before any. -/
def provider (R : Type) (capacity : Option Nat) (plan : FaultPlan) : Faulty (Machine R) R :=
  .fresh (.empty capacity) "host" plan

/-- The books of the device, which list what the pool owns, as long as every request was spared. -/
abbrev Accounted (R : Type) [Scalar R] (capacity : Option Nat) (plan : FaultPlan)
    (b : SharedDevice (Faulty (Machine R) R)) (pool : List (Worker R)) : Prop :=
  Guarded.Struck (provider R capacity plan) b.device ∨
    Guarded.Recorded (provider R capacity plan) (pool.flatMap Worker.entries) b.device

/-- Some request was not spared. -/
abbrev Struck (R : Type) [Scalar R] (capacity : Option Nat) (plan : FaultPlan)
    (b : SharedDevice (Faulty (Machine R) R)) : Prop :=
  Guarded.Struck (provider R capacity plan) b.device

theorem ledger (capacity : Option Nat) (plan : FaultPlan) :
    Backend.Ledger (Struck R capacity plan) (Accounted R capacity plan) SharedDevice.Fitting :=
  SharedDevice.ledger (Guarded.accounting (provider R capacity plan))

/-- Workers and books agree after every run, unless a request was not spared. -/
theorem after_staffed (capacity : Option Nat) (plan : FaultPlan) (workers : Count) (calls : List (Call R)) :
    Excusably (Struck R capacity plan) (Staffed (Accounted R capacity plan) SharedDevice.Fitting)
      (after capacity plan workers calls) :=
  (enduring_staffed (ledger capacity plan)).run calls
    (Or.inr (staffed_fresh (Or.inr (Guarded.recorded_fresh capacity "host" plan))))

end OnFaultyDevice

open OnFaultyDevice

variable {R : Type} [Scalar R]

/-- **Buffers have owners.** On a device of any capacity whose requests fail by any plan, after any calls, however they
ended, if no request crashed and none that frees a buffer failed by plan: the log tells the history of the device, every
request to free a buffer named one that existed, and the buffers that exist are those of the workers in the pool, six
for each, all of them different. So there are none without workers, as after a release, after a problem was posed, and
after a preparation that failed. -/
theorem faulty_buffers_owned (capacity : Option Nat) (plan : Device.FaultPlan) (workers : Count) (calls : List (Call R))
    (s : OnFaultyDevice R) (reached : after capacity plan workers calls = s)
    (spared : (provider R capacity plan).Each Device.Faulty.Spares s.backend.device.device.log) :
    s.backend.device.device = (provider R capacity plan).replay s.backend.device.device.log ∧
    (provider R capacity plan).Each Device.Faulty.FreesLive s.backend.device.device.log ∧
    s.backend.device.machine.memory.live = 6 * s.pool.length ∧
    (s.pool.flatMap (·.buffers.ids)).Nodup ∧
    (∀ id, (s.backend.device.machine.memory.buffer? id).isSome = true ↔ id ∈ s.pool.flatMap (·.buffers.ids)) ∧
    (s.lifecycle.isPrepared = false → s.backend.device.machine.memory.live = 0) ∧
    ∀ earlier call, calls = earlier ++ [call] → call.clears ((after capacity plan workers earlier).answer call).1 →
      s.backend.device.machine.memory.live = 0 := by
  subst reached
  have staffed := (after_staffed capacity plan workers calls).resolve_left fun struck => struck spared
  have recorded := staffed.account.resolve_left fun struck => struck spared
  generalize left : after capacity plan workers calls = s at *
  have ids : (s.pool.flatMap Device.Worker.entries).map (·.1) = s.pool.flatMap (·.buffers.ids) := List.map_flatMap
  have six : s.backend.device.machine.memory.live = 6 * s.pool.length := by
    rw [recorded.books.live_eq, List.length_flatMap]
    simp [Device.Worker.length_entries, Nat.mul_comm]
  refine ⟨recorded.replayed, recorded.freesLive, six, ids ▸ recorded.books.nodup, fun id => ?_, fun unprepared => ?_, ?_⟩
  · rw [← ids, recorded.books.mem_ids_iff, Device.Memory.length?, Option.isSome_map]
  · have unscheduled : s.schedule = none := by
      rw [← Option.not_isSome_iff_eq_none, ← staffed.isPrepared, unprepared]
      exact Bool.false_ne_true
    rw [six, staffed.idle unscheduled]
    rfl
  · rintro earlier call rfl clears
    rw [after, run_concat] at left
    have empty : s.pool = [] := by
      rcases after_staffed capacity plan workers earlier with struck | before
      · have lost := (enduring_backend (ledger (R := R) capacity plan).keeps_excused).answer call struck
        exact absurd (left ▸ lost) fun struck => struck spared
      · have none := pool_of_clears (ledger capacity plan) before clears
        rw [show ((after capacity plan workers earlier).answer call).2 = s from left] at none
        exact none.resolve_left fun struck => struck spared
    rw [six, empty]
    rfl

theorem two_pos : (0 : UInt64) < 2 := by decide

/-- Two workers, the second of which could not be made at first. -/
def madeAgain : OnFaultyDevice Float :=
  after none (failingAt 11 (.error .pending)) ⟨2, two_pos⟩ (oneVariable ++ [.prepare, .prepare])

/-- A device that was poisoned by what a failed preparation left in its queue. -/
def poisonedDevice : OnFaultyDevice Float :=
  after none (failingAt 7 (.error .pending)) ⟨1, Device.Worker.one_pos⟩ (oneVariable ++ [.prepare, .minimumEnergy])

/-- Two workers own twelve buffers, and none exist on a device that was poisoned. -/
theorem faulty_buffers_owned_poisoned :
    ((provider Float none (failingAt 11 (.error .pending))).Each Device.Faulty.Spares
        madeAgain.backend.device.device.log ∧
      madeAgain.pool.length = 2 ∧ madeAgain.backend.device.machine.memory.live = 12) ∧
    (provider Float none (failingAt 7 (.error .pending))).Each Device.Faulty.Spares
        poisonedDevice.backend.device.device.log ∧
      poisonedDevice.backend.device.machine.poisoned = true ∧
      poisonedDevice.backend.device.machine.memory.live = 0 := by
  have reached : after none (failingAt 11 (.error .pending)) ⟨2, by decide⟩ (oneVariable ++ [.prepare, .prepare]) =
      madeAgain := by rfl
  have reached' : after none (failingAt 7 (.error .pending)) ⟨1, by decide⟩ (oneVariable ++ [.prepare, .minimumEnergy]) =
      poisonedDevice := by rfl
  have spared : (provider Float none (failingAt 11 (.error .pending))).Each Device.Faulty.Spares
      madeAgain.backend.device.device.log := by
    decide +kernel
  have spared' : (provider Float none (failingAt 7 (.error .pending))).Each Device.Faulty.Spares
      poisonedDevice.backend.device.device.log := by
    decide +kernel
  have two : madeAgain.pool.length = 2 := by decide +kernel
  have poisoned : poisonedDevice.backend.device.machine.poisoned = true := by decide +kernel
  have unprepared : poisonedDevice.lifecycle.isPrepared = false := by decide +kernel
  obtain ⟨-, -, six, -⟩ := faulty_buffers_owned _ _ _ _ _ reached spared
  obtain ⟨-, -, -, -, -, none, -⟩ := faulty_buffers_owned _ _ _ _ _ reached' spared'
  rw [two] at six
  exact ⟨⟨spared, two, six⟩, spared', poisoned, none unprepared⟩

end BinaryQuadratic.Solver
