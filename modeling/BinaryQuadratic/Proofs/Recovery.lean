import BinaryQuadratic.Proofs.Optimality.FaultyDevice
import BinaryQuadratic.Proofs.Solver.Readiness

/-!
# After a preparation that failed

A preparation that fails leaves the problem and nothing else, whichever call needed it. Results can be read afterwards
as if nothing had happened, but for one thing: what the failed preparation left in the queue of the device. A worker
that could not be made gives its buffers back, and a command that still waits for them makes the next synchronization
fail, which poisons the device. So whether a later read succeeds depends on the device alone
(`faulty_prepare_recovers_iff`).
-/

namespace BinaryQuadratic.Solver

open Step Resilient OnFaultyDevice

/-! ## Reads without workers -/

section Reads

variable {B R W : Type} [Scalar R] [Backend B R W]

/-- Energies that are missing are made before they are read. -/
theorem readEnergies_of_fillEnergies {s s' s'' : Solver B R W} (done : complete s = .ok () s')
    (missing : s'.lifecycle.hasEnergy = false) (made : fillEnergies s' = .ok () s'') :
    readEnergies s = .ok s''.energies s'' := by
  rw [readEnergies, bind_apply, done]
  show (if s'.lifecycle.hasEnergy = true then _ else fillEnergies >>= _) s' = _
  rw [missing, if_neg Bool.false_ne_true, bind_apply, made]
  rfl

variable {value : Problem R → Index → R} [Resilient B value] {s : Solver (Journal B) R (Journaled W)} {p : Problem R}
  {ending : Halt SolverError}

/-- Nothing is read without workers unless the backend can be used. -/
theorem Tracked.healthy_of_reads (h : s.Tracked) (posed : s.problem = some p) (unscheduled : s.schedule = none)
    {call : Call R} (reads : call.reads = true) (read : (s.answer call).1.isOk = true) :
    Healthy s.backend.backend := by
  cases done : complete s with
  | ok _ t => exact ((complete_resilient h posed).of_ok done).healthy unscheduled
  | error ending t =>
    rw [answer_of_reads done reads] at read
    exact absurd read Bool.false_ne_true

/-- Every result can be read without workers where they are welcome, and is that of a scan without errors. -/
theorem Tracked.reads_of_welcomes [Scalar.Ordered R] (h : s.Tracked) (posed : s.problem = some p)
    (unscheduled : s.schedule = none) (welcome : s.Welcomes p) :
    ∃ (size : Count) (minimum : R) (solutions : List Assignment),
      (s.answer .solutions).2.tileInUse = some size ∧
      Reported (value p) p.size (2 ^ p.size) size.1.toNat minimum solutions ∧
      (s.answer .minimumEnergy).1 = .ok (.energy (p.external minimum)) ∧
      (s.answer .solutions).1 = .ok (.solutions solutions) ∧
      (s.answer .energies).1 =
        .ok (.energies (List.replicate (max solutions.length 1) (p.external minimum))) := by
  have post := complete_resilient h posed
  cases done : complete s with
  | error ending t => exact absurd welcome ((post.of_error done).2 unscheduled)
  | ok _ t =>
    obtain ⟨retains, concluded, -, once, none⟩ := post.of_ok done
    have posed' := retains.problem.trans posed
    obtain ⟨available, last, scheduled, -⟩ := id concluded
    obtain ⟨size, exhibits⟩ := retains.tracked.exhibits posed' concluded
    -- the energies are those of the same scan
    obtain ⟨_, t', made, -, energies⟩ := (fillEnergies_resilient retains.tracked posed' scheduled).exists_ok
    have filled := readEnergies_of_fillEnergies done (none unscheduled) made
    rw [answer_solutions_of_complete done, answer_minimumEnergy_of_complete done posed', answer_of_ok rfl filled,
      energies available]
    exact ⟨size, t.minimum, t.solutions, exhibits.inUse, exhibits.reported_of_once (once unscheduled), rfl, rfl, rfl⟩

end Reads

/-! ## On a device that fails -/

variable {R : Type} [Scalar R]

theorem OnFaultyDevice.plan_after [Scalar.Ordered R] {capacity : Option Nat} {plan : Device.FaultPlan} {workers : Count}
    (steady : ∀ k, plan k ≠ some .crash) (calls : List (Call R)) :
    (OnFaultyDevice.after capacity plan workers calls).backend.device.device.plan = plan := by
  rw [OnFaultyDevice.after_eq_view]
  exact (OnFaultyDevice.resumes_journaled steady calls).alike.plan

/-- Nothing further fails by plan, and there is room for the workers that the problem needs. -/
structure OnFaultyDevice.Ample (s : OnFaultyDevice R) (p : Problem R) : Prop where
  quiet : s.backend.device.Quiet
  host : HostMemory.Fits s.backend.workers.1.toNat
    (Backend.workerBytes (SharedDevice (Device.Faulty (Device.Machine R) R)))
  room : s.backend.device.machine.HasRoom
    (s.backend.workers.1.toNat * Device.footprint p.size (Device.Worker.batchFor (s.tileFor p).1).1.toNat)
  blocks : Device.Blocks R p.size (Device.Worker.batchFor (s.tileFor p).1).1.toNat

/-- **Preparing again.** On a device whose requests fail with errors by any plan, after any calls, however they ended: a
preparation that fails leaves the problem and nothing else, and so does every other call that begins with one. Results
can then be read where no further request fails and there is room, and are those of a scan without errors, exactly if
the device is not poisoned and no command that was left in its queue names a buffer that was given back. -/
theorem faulty_prepare_recovers_iff [Scalar.Ordered R] (capacity : Option Nat) (plan : Device.FaultPlan)
    (workers : Count) (calls : List (Call R)) (steady : ∀ k, plan k ≠ some .crash) (p : Problem R)
    (posed : lastPosed calls = some p) (ending : Halt SolverError) (s' : OnFaultyDevice R)
    (failed : (after capacity plan workers calls).answer .prepare = (.error ending, s')) :
    s'.problem = some p ∧ s'.Stripped ∧
    (∀ call : Call R, call.prepares (after capacity plan workers calls) = true →
      (after capacity plan workers calls).answer call = (.error ending, s')) ∧
    (∀ call : Call R, call.reads = true → (s'.answer call).1.isOk = true → s'.backend.device.Healthy) ∧
    (s'.Ample p → s'.backend.device.Healthy →
      ∃ (size : Count) (minimum : R) (solutions : List Assignment),
        (s'.answer .solutions).2.tileInUse = some size ∧
        Reported p.form p.size (2 ^ p.size) size.1.toNat minimum solutions ∧
        (s'.answer .minimumEnergy).1 = .ok (.energy (p.external minimum)) ∧
        (s'.answer .solutions).1 = .ok (.solutions solutions) ∧
        (s'.answer .energies).1 =
          .ok (.energies (List.replicate (max solutions.length 1) (p.external minimum)))) := by
  have resumes : Resumes _ _ (journaled (device R capacity plan workers) calls) := resumes_journaled steady calls
  have hp := resumes.problem_eq_lastPosed.trans posed
  have allowed : (after capacity plan workers calls).lifecycle.hasProblem = true := by
    rw [after_eq_view]
    exact resumes.tracked.hasProblem.trans (by rw [hp]; rfl)
  have drives (call : Call R) (begins : call.prepares (after capacity plan workers calls) = true) :=
    answer_of_prepares allowed (prepare_of_answer failed) begins
  have same := answer_journaled (device R capacity plan workers) calls .prepare
  rw [journaled_concat] at same
  obtain ⟨halted, rfl⟩ := Prod.mk.inj (same.symm.trans failed)
  -- what holds of the solver with journals holds without
  generalize left : ((journaled (device R capacity plan workers) calls).answer .prepare).2 = t at *
  obtain ⟨retains, stripped, -⟩ :=
    (prepare_resilient resumes.tracked hp).of_error (prepare_of_answer (Prod.ext halted left))
  have problem := retains.problem.trans hp
  have seen := answer_view Journal.mirror t
  refine ⟨problem, ?_, drives, fun call reads read => ?_, fun ample healthy => ?_⟩
  · exact ⟨stripped.lifecycle, stripped.schedule, congrArg _ stripped.pool, stripped.minimum, stripped.solutions,
      stripped.energies⟩
  · rw [seen] at read
    exact retains.tracked.healthy_of_reads problem stripped.schedule reads read
  · simp only [seen]
    refine retains.tracked.reads_of_welcomes problem stripped.schedule ⟨ample.host, ?_⟩
    exact ⟨ample.quiet, healthy, ample.room, ample.blocks⟩

/-- A problem of one variable. -/
def oneVariable : List (Call Float) := [.setProblem (Matrix.identity Float 1) .maximize]

/-- How a preparation ends of which one request fails. -/
def prepareFailingAt (workers : Count) (number : Nat) : Outcome Float × OnFaultyDevice Float :=
  (after none (failingAt number (.error .pending)) workers oneVariable).answer .prepare

/-- No limit on memory is reached, and a request fails only once. -/
theorem ample_prepareFailingAt {workers : Count} {number : Nat}
    (later : number < (prepareFailingAt workers number).2.backend.device.device.count)
    (unlimited : (prepareFailingAt workers number).2.backend.device.machine.room.isNone = true)
    (small : (lastPosed oneVariable).all (fun p => decide (p.size = 1 ∧
      (Device.Worker.batchFor ((prepareFailingAt workers number).2.tileFor p).1).1.toNat = 2 ∧
      (prepareFailingAt workers number).2.backend.workers.1.toNat = 1)) = true)
    {p : Problem Float} (posed : lastPosed oneVariable = some p) : (prepareFailingAt workers number).2.Ample p := by
  have same : (prepareFailingAt workers number).2 =
      after none (failingAt number (.error .pending)) workers (oneVariable ++ [.prepare]) :=
    (run_concat oneVariable .prepare).symm
  have plan : (prepareFailingAt workers number).2.backend.device.device.plan = failingAt number (.error .pending) := by
    rw [same]
    exact plan_after (failingAt_ne_crash number .pending) _
  generalize (prepareFailingAt workers number).2 = s at *
  rw [posed, Option.all_some, decide_eq_true_eq] at small
  obtain ⟨size, batch, alone⟩ := small
  refine ⟨fun k after => ?_, ?_, fun available limit => ?_, ?_⟩
  · rw [plan]
    exact if_neg (by omega)
  · rw [alone]
    decide
  · rw [limit] at unlimited
    exact absurd unlimited Bool.false_ne_true
  · rw [size, batch]
    exact ⟨by decide, by decide, by decide, by decide, by decide⟩

/-- A buffer is refused, and everything can be read afterwards. -/
theorem faulty_prepare_recovers_iff_refusedBuffer :
    (∀ k, failingAt 3 (.error .pending) k ≠ some .crash) ∧
    ∃ (p : Problem Float) (ending : Halt SolverError) (s' : OnFaultyDevice Float), lastPosed oneVariable = some p ∧
      prepareFailingAt ⟨1, by decide⟩ 3 = (.error ending, s') ∧ s'.Stripped ∧ s'.Ample p ∧ s'.backend.device.Healthy ∧
      ∃ minimum, Optimum p.form (2 ^ p.size) minimum ∧
        (s'.answer .minimumEnergy).1 = .ok (.energy (p.external minimum)) := by
  have steady := failingAt_ne_crash 3 .pending
  have posed : (lastPosed oneVariable).isSome = true := by decide +kernel
  obtain ⟨p, hp⟩ := Option.isSome_iff_exists.1 posed
  have refused : (prepareFailingAt ⟨1, by decide⟩ 3).1.isOk = false := by decide +kernel
  have read : ((prepareFailingAt ⟨1, by decide⟩ 3).2.answer .minimumEnergy).1.isOk = true := by decide +kernel
  have ample : (prepareFailingAt ⟨1, by decide⟩ 3).2.Ample p :=
    ample_prepareFailingAt (by decide +kernel) (by decide +kernel) (by decide +kernel) hp
  obtain ⟨ending, failed⟩ := exists_answer_of_not_isOk refused
  obtain ⟨-, stripped, -, healthy, reads⟩ :=
    faulty_prepare_recovers_iff none _ ⟨1, by decide⟩ oneVariable steady p hp ending _ failed
  have well := healthy .minimumEnergy rfl read
  obtain ⟨size, minimum, solutions, -, reported, value, -⟩ := reads ample well
  exact ⟨steady, p, ending, _, hp, failed, stripped, ample, well, minimum, reported.optimum, value⟩

/-- The copy of the weights is never waited for, and nothing can be read afterwards. -/
theorem not_isOk_minimumEnergy_staleCopy :
    (∀ k, failingAt 7 (.error .pending) k ≠ some .crash) ∧
    ∃ (p : Problem Float) (ending : Halt SolverError) (s' : OnFaultyDevice Float), lastPosed oneVariable = some p ∧
      prepareFailingAt ⟨1, by decide⟩ 7 = (.error ending, s') ∧ s'.Ample p ∧
      (s'.answer .minimumEnergy).1.isOk = false := by
  have posed : (lastPosed oneVariable).isSome = true := by decide +kernel
  obtain ⟨p, hp⟩ := Option.isSome_iff_exists.1 posed
  have refused : (prepareFailingAt ⟨1, by decide⟩ 7).1.isOk = false := by decide +kernel
  have unread : ((prepareFailingAt ⟨1, by decide⟩ 7).2.answer .minimumEnergy).1.isOk = false := by decide +kernel
  have ample : (prepareFailingAt ⟨1, by decide⟩ 7).2.Ample p :=
    ample_prepareFailingAt (by decide +kernel) (by decide +kernel) (by decide +kernel) hp
  obtain ⟨ending, failed⟩ := exists_answer_of_not_isOk refused
  exact ⟨failingAt_ne_crash 7 .pending, p, ending, _, hp, failed, ample, unread⟩

end BinaryQuadratic.Solver
