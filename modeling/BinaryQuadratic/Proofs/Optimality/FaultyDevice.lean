import BinaryQuadratic.Proofs.Backend.FaultyDevice
import BinaryQuadratic.Proofs.Format.Precision
import BinaryQuadratic.Proofs.Solver.Resilience

/-!
# Searches on a device that fails

Requests to the device may fail with errors by any plan. A minimum that is read is the optimum of all indices
nevertheless, however often calls failed before and were made again (`faulty_minimum_optimal`). Solutions that are read
are those at the minimum as well, but each comes as often as workers scanned its index: when a round fails after some of
its workers scanned their tiles, these are scanned again. The solutions are the ones to be reported exactly if none of
them but perhaps the last was scanned twice (`faulty_solutions_reported_iff`).
-/

namespace BinaryQuadratic.Solver

open Step Resilient

variable {R : Type} [Scalar R]

/-- A solver on a device in host memory whose requests fail by plan. -/
abbrev OnFaultyDevice (R : Type) : Type :=
  Solver (SharedDevice (Device.Faulty (Device.Machine R) R)) R (Device.Worker R)

namespace OnFaultyDevice

/-- A new device with this capacity and plan, with this number of workers. -/
def device (R : Type) (capacity : Option Nat) (plan : Device.FaultPlan) (workers : Count) :
    SharedDevice (Device.Faulty (Device.Machine R) R) :=
  ⟨.fresh (.fresh (.empty capacity) "host" plan), "host", workers⟩

/-- A new solver on a new device. -/
def start (capacity : Option Nat) (plan : Device.FaultPlan) (workers : Count) : OnFaultyDevice R :=
  fresh (device R capacity plan workers)

/-- The solver that given calls on a new one leave. -/
def after (capacity : Option Nat) (plan : Device.FaultPlan) (workers : Count) (calls : List (Call R)) :
    OnFaultyDevice R :=
  ((start capacity plan workers).run calls).2

variable [Scalar.Ordered R] {capacity : Option Nat} {plan : Device.FaultPlan} {workers : Count}

/-- How often workers of the pool scanned an index since the scan was begun. -/
def timesScanned (capacity : Option Nat) (plan : Device.FaultPlan) (workers : Count) (calls : List (Call R))
    (x : Index) : Nat := (journaled (device R capacity plan workers) calls).timesMet x

omit [Scalar.Ordered R] in
theorem after_eq_view (calls : List (Call R)) :
    after capacity plan workers calls =
      (journaled (device R capacity plan workers) calls).view Journal.backend Journaled.worker :=
  congrArg Prod.snd (run_fresh _ calls)

theorem tracked_start :
    (fresh ⟨device R capacity plan workers⟩ :
      Solver (Journal (SharedDevice (Device.Faulty (Device.Machine R) R))) R (Journaled (Device.Worker R))).Tracked :=
  tracked_fresh fun _ _ => Or.inr (Or.inr (.nil fun _ none => absurd none List.not_mem_nil))

/-- Unless the plan has a request crash, every call keeps the invariant. -/
theorem resumes_journaled (steady : ∀ k, plan k ≠ some .crash) (calls : List (Call R)) :
    Resumes (fresh ⟨device R capacity plan workers⟩) (lastPosed calls)
      (journaled (device R capacity plan workers) calls) :=
  (run_resilient tracked_start calls).1 (intact_of_steady tracked_start steady calls)

omit [Scalar.Ordered R] in
/-- A call that succeeds does so with journals, and leaves the same but for these. -/
theorem answer_of_after {calls : List (Call R)} {call : Call R} {reply : Reply R} {s' : OnFaultyDevice R}
    (done : (after capacity plan workers calls).answer call = (.ok reply, s')) :
    (journaled (device R capacity plan workers) calls).answer call =
        (.ok reply, journaled (device R capacity plan workers) (calls ++ [call])) ∧
      s' = (journaled (device R capacity plan workers) (calls ++ [call])).view Journal.backend Journaled.worker := by
  obtain ⟨same, left⟩ := Prod.mk.inj ((answer_journaled (device R capacity plan workers) calls call).symm.trans done)
  refine ⟨?_, left.symm⟩
  rw [journaled_concat]
  exact Prod.ext same rfl

end OnFaultyDevice

variable [Scalar.Ordered R]

/-- **The minimum survives errors.** On a device whose requests fail with errors by any plan, after any calls, however
they ended: a minimum that is read is the optimum of all indices in the direction of the last problem that was posed,
which is that of the last weights that were admissible, by the quadratic forms of their assignments. -/
theorem faulty_minimum_optimal (capacity : Option Nat) (plan : Device.FaultPlan) (workers : Count)
    (calls : List (Call R)) (steady : ∀ k, plan k ≠ some .crash) (reply : Reply R) (s' : OnFaultyDevice R)
    (read : (OnFaultyDevice.after capacity plan workers calls).answer .minimumEnergy = (.ok reply, s')) :
    ∃ (p : Problem R) (minimum : R), lastPosed calls = some p ∧ PosesLast calls p ∧
      reply = .energy (p.external minimum) ∧ Optimum p.form (2 ^ p.size) minimum := by
  have resumes : Resumes _ _ (journaled (OnFaultyDevice.device R capacity plan workers) calls) :=
    OnFaultyDevice.resumes_journaled steady calls
  obtain ⟨p, size, posed, form, exhibits⟩ :=
    exhibits_of_minimumEnergy resumes.tracked (OnFaultyDevice.answer_of_after read).1
  have last : lastPosed calls = some p := resumes.problem_eq_lastPosed ▸ posed
  exact ⟨p, _, last, lastPosed_eq_some_iff.1 last, form, exhibits.optimum⟩

/-- A plan by which one request fails. -/
def failingAt (number : Nat) (halt : Halt DeviceError) : Device.FaultPlan := fun k =>
  if k = number then some halt else none

theorem failingAt_ne_crash (number : Nat) (cause : DeviceError) (k : Nat) :
    failingAt number (.error cause) k ≠ some .crash := by
  unfold failingAt
  split <;> simp

/-- The first read of the minimum fails after the worker's energy was lowered, and before its index is known. -/
theorem faulty_minimum_optimal_interrupted :
    (∀ k, failingAt 14 (.error .pending) k ≠ some .crash) ∧
    ∃ reply s', (OnFaultyDevice.after none (failingAt 14 (.error .pending)) ⟨1, by decide⟩
        [.setProblem (Matrix.identity Float 1) .maximize, .minimumEnergy]).answer .minimumEnergy = (.ok reply, s') ∧
      ∃ (p : Problem Float) (minimum : Float),
        lastPosed [.setProblem (Matrix.identity Float 1) .maximize, .minimumEnergy] = some p ∧
        reply = .energy (p.external minimum) ∧ Optimum p.form (2 ^ p.size) minimum := by
  have read : ((OnFaultyDevice.after none (failingAt 14 (.error .pending)) ⟨1, by decide⟩
      [.setProblem (Matrix.identity Float 1) .maximize, .minimumEnergy]).answer .minimumEnergy).1.isOk = true := by
    decide +kernel
  have steady := failingAt_ne_crash 14 .pending
  obtain ⟨reply, s', answered⟩ := exists_answer_of_isOk read
  obtain ⟨p, minimum, posed, -, form, optimum⟩ :=
    faulty_minimum_optimal none _ ⟨1, by decide⟩ _ steady reply s' answered
  exact ⟨steady, reply, s', answered, p, minimum, posed, form, optimum⟩

/-- **Repetitions after errors.** On a device whose requests fail with errors by any plan, after any calls, however they
ended: solutions that are read belong to the optimum of all indices, and each index at it comes as often as workers
scanned it, so the solutions are those of a scan without errors exactly if all but perhaps the last of these were
scanned once. A worker that is alone scans no index twice. -/
theorem faulty_solutions_reported_iff (capacity : Option Nat) (plan : Device.FaultPlan) (workers : Count)
    (calls : List (Call R)) (steady : ∀ k, plan k ≠ some .crash) (reply : Reply R) (s' : OnFaultyDevice R)
    (read : (OnFaultyDevice.after capacity plan workers calls).answer .solutions = (.ok reply, s')) :
    ∃ (p : Problem R) (size : Count) (minimum : R) (solutions : List Assignment), lastPosed calls = some p ∧
      s'.tileInUse = some size ∧ reply = .solutions solutions ∧ Optimum p.form (2 ^ p.size) minimum ∧
      solutions = (repeatedAt p.form (2 ^ p.size) size.1.toNat
        (OnFaultyDevice.timesScanned capacity plan workers (calls ++ [.solutions])) minimum).map (·.decode p.size) ∧
      (∀ x : Index, x.toNat < 2 ^ p.size →
        1 ≤ OnFaultyDevice.timesScanned capacity plan workers (calls ++ [.solutions]) x) ∧
      (Reported p.form p.size (2 ^ p.size) size.1.toNat minimum solutions ↔
        ∀ x ∈ firstAt p.form (2 ^ p.size) (size.1.toNat - 1) minimum,
          OnFaultyDevice.timesScanned capacity plan workers (calls ++ [.solutions]) x = 1) ∧
      (workers.1.toNat = 1 → Reported p.form p.size (2 ^ p.size) size.1.toNat minimum solutions) := by
  obtain ⟨done, rfl⟩ := OnFaultyDevice.answer_of_after read
  have before : Resumes _ _ (journaled (OnFaultyDevice.device R capacity plan workers) calls) :=
    OnFaultyDevice.resumes_journaled steady calls
  have after : Resumes _ _ (journaled (OnFaultyDevice.device R capacity plan workers) (calls ++ [.solutions])) :=
    OnFaultyDevice.resumes_journaled steady _
  obtain ⟨p, size, posed, form, exhibits, -⟩ := exhibits_of_solutions before.tracked done
  exact ⟨p, size, _, _, before.problem_eq_lastPosed ▸ posed, exhibits.inUse, form, exhibits.optimum,
    exhibits.solutions, exhibits.present, exhibits.reported_iff, fun alone =>
      exhibits.reported_of_once (exhibits.alone ((congrArg (·.1.toNat) after.alike.workers).trans alone))⟩

/-- A scan of four indices by two workers whose first round fails. -/
def scanAgain : List (Call Float) :=
  [.setProblem (Matrix.identity Float 2) .minimize, .setPreference (.tileSize 2), .prepare, .scanRound]

/-- The round fails at the second worker, so the tile of the first one is scanned twice. -/
theorem faulty_solutions_reported_iff_scanAgain :
    (∀ k, failingAt 25 (.error .pending) k ≠ some .crash) ∧
    ∃ reply s', (OnFaultyDevice.after none (failingAt 25 (.error .pending)) ⟨2, by decide⟩ scanAgain).answer
        .solutions = (.ok reply, s') ∧
      ∃ (p : Problem Float) (size : Count) (minimum : Float) (solutions : List Assignment),
        lastPosed scanAgain = some p ∧ s'.tileInUse = some size ∧ reply = .solutions solutions ∧
        (Reported p.form p.size (2 ^ p.size) size.1.toNat minimum solutions ↔
          ∀ x ∈ firstAt p.form (2 ^ p.size) (size.1.toNat - 1) minimum,
            OnFaultyDevice.timesScanned none (failingAt 25 (.error .pending)) ⟨2, by decide⟩
              (scanAgain ++ [.solutions]) x = 1) := by
  have read : ((OnFaultyDevice.after none (failingAt 25 (.error .pending)) ⟨2, by decide⟩ scanAgain).answer
      .solutions).1.isOk = true := by
    decide +kernel
  have steady := failingAt_ne_crash 25 .pending
  obtain ⟨reply, s', answered⟩ := exists_answer_of_isOk read
  obtain ⟨p, size, minimum, solutions, posed, inUse, form, -, -, -, exact, -⟩ :=
    faulty_solutions_reported_iff none _ ⟨2, by decide⟩ _ steady reply s' answered
  exact ⟨steady, reply, s', answered, p, size, minimum, solutions, posed, inUse, form, exact⟩

/-- The first assignment that is read comes twice, and the one that should follow it is missing. -/
theorem not_nodup_solutions_scanAgain :
    (∀ k, failingAt 25 (.error .pending) k ≠ some .crash) ∧
    ∃ solutions, ((OnFaultyDevice.after none (failingAt 25 (.error .pending)) ⟨2, by decide⟩ scanAgain).answer
      .solutions).1 = .ok (.solutions solutions) ∧ ¬ solutions.Nodup := by
  have steady := failingAt_ne_crash 25 .pending
  refine ⟨steady, ?_⟩
  have read : ((OnFaultyDevice.after none (failingAt 25 (.error .pending)) ⟨2, by decide⟩ scanAgain).answer
      .solutions).1.isOk = true := by
    decide +kernel
  have inUse : (journaled (OnFaultyDevice.device Float none (failingAt 25 (.error .pending)) ⟨2, by decide⟩)
      (scanAgain ++ [.solutions])).tileInUse = some ⟨2, by decide⟩ := by
    decide +kernel
  have again : (lastPosed scanAgain).any (fun p => decide (repeatedAt p.form (2 ^ p.size) 2
      (journaled (OnFaultyDevice.device Float none (failingAt 25 (.error .pending)) ⟨2, by decide⟩)
        (scanAgain ++ [.solutions])).timesMet
      (journaled (OnFaultyDevice.device Float none (failingAt 25 (.error .pending)) ⟨2, by decide⟩)
        (scanAgain ++ [.solutions])).minimum = [0, 0])) = true := by
    decide +kernel
  obtain ⟨reply, s', answered⟩ := exists_answer_of_isOk read
  have resumes : Resumes _ _ (journaled (OnFaultyDevice.device Float none (failingAt 25 (.error .pending))
      ⟨2, by decide⟩) scanAgain) := OnFaultyDevice.resumes_journaled steady scanAgain
  obtain ⟨p, size, posed, rfl, exhibits, -⟩ :=
    exhibits_of_solutions resumes.tracked (OnFaultyDevice.answer_of_after answered).1
  rw [resumes.problem_eq_lastPosed] at posed
  refine ⟨_, congrArg Prod.fst answered, ?_⟩
  generalize journaled (OnFaultyDevice.device Float none (failingAt 25 (.error .pending)) ⟨2, by decide⟩)
    (scanAgain ++ [.solutions]) = t at *
  obtain rfl := Option.some.inj (exhibits.inUse.symm.trans inUse)
  rw [posed, Option.any_some, decide_eq_true_eq] at again
  have twice : t.solutions = [Index.decode 0 p.size, Index.decode 0 p.size] :=
    exhibits.solutions.trans (congrArg (List.map (·.decode p.size)) again)
  rw [twice]
  simp

end BinaryQuadratic.Solver
