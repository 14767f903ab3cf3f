import BinaryQuadratic.Proofs.Backend.Threads
import BinaryQuadratic.Proofs.Format.Precision
import BinaryQuadratic.Proofs.Solver.Call

/-!
# Optimality of a search on the processor

Whatever was called before, in whatever order and with whatever errors, solutions that are made of a scan are the
optimum of the indices below its cursor, by their energies over the weights of the last problem that was posed; and
what is read of a solver with a problem is the optimum of all indices. Reading fails only by crashing, when host memory
cannot hold one worker for each thread.
-/

namespace BinaryQuadratic.Solver

open Step

variable {R : Type} [Scalar R] [Scalar.Ordered R]

/-- A solver on the processor. -/
abbrev OnProcessor (R : Type) : Type := Solver (Threads R) R (ThreadWorker R)

/-- The solver that given calls on a new one with this number of threads leave. -/
def OnProcessor.after (threads : Count) (calls : List (Call R)) : OnProcessor R := ((fresh ⟨threads⟩).run calls).2

namespace OnProcessor

theorem continues_after (threads : Count) (calls : List (Call R)) :
    Continues Problem.energy (fresh ⟨threads⟩ : OnProcessor R) (lastPosed calls) (after threads calls) :=
  run_spec (faithful_fresh fun _ _ none => absurd none List.not_mem_nil) calls

/-- Only the memory for the pool can be refused, and that is a crash. -/
theorem crash_of_refuses {s : OnProcessor R} {p : Problem R} {ending : Halt SolverError} {left : Threads R}
    (refused : s.Refuses p ending left) :
    ¬ HostMemory.Fits s.backend.threads.1.toNat (Backend.workerBytes (Threads R)) ∧ ending = .crash := by
  obtain ⟨b, -, workers, -, refused⟩ := refused
  obtain ⟨crashed, large⟩ := (Threads.createPool_spec _ _ _ _).of_error refused
  rw [workers] at large
  exact ⟨large, crashed⟩

/-- On the processor a full scan is finished if host memory can hold the workers, and crashes if not. -/
theorem complete_cases {s : OnProcessor R} {p : Problem R} {threads : Count} (h : s.Faithful Problem.energy)
    (posed : s.problem = some p) (same : s.backend.threads = threads) :
    if HostMemory.Fits threads.1.toNat (Backend.workerBytes (Threads R)) then
      ∃ s' : OnProcessor R, complete s = .ok () s' ∧ Completed Problem.energy s p s'
    else ∃ s', complete s = .error .crash s' := by
  subst same
  have cases : Post complete s
      (fun _ s' => HostMemory.Fits s.backend.threads.1.toNat (Backend.workerBytes (Threads R)) ∧
        Completed Problem.energy s p s')
      fun ending _ => ¬ HostMemory.Fits s.backend.threads.1.toNat (Backend.workerBytes (Threads R)) ∧
        ending = .crash := by
    refine (complete_spec h posed).mono ?_ ?_
    · intro _ s' done
      refine ⟨?_, done⟩
      have fits := done.faithful.fits_of_finished done.finished
      rw [done.kept.workers] at fits
      exact fits
    · intro ending s' left
      obtain ⟨-, -, -, -, refused⟩ := left
      exact crash_of_refuses refused
  have outcome := cases.ite
  split
  · next fits =>
    rw [if_pos fits] at outcome
    obtain ⟨_, s', done, completed⟩ := outcome
    exact ⟨s', done, completed⟩
  · next large =>
    rw [if_neg large] at outcome
    exact outcome

end OnProcessor

/-- **Optimality on the processor.** After any calls, the solver's problem is the last one that was posed, which is that
of the last weights that were admissible. While it is prepared, making solutions succeeds and shows the optimum of the
indices below the cursor. With a problem, reading the minimum and the solutions succeeds and gives the optimum of all
indices, or crashes if host memory cannot hold the workers. -/
theorem processor_search_optimal (threads : Count) (calls : List (Call R)) :
    (OnProcessor.after threads calls).problem = lastPosed calls ∧
    (∀ p, lastPosed calls = some p ↔ PosesLast calls p) ∧
    ((OnProcessor.after threads calls).lifecycle.isPrepared = true →
      ∃ (p : Problem R) (schedule : Schedule) (s' : OnProcessor R), lastPosed calls = some p ∧
        (OnProcessor.after threads calls).schedule = some schedule ∧ schedule.cursor.toNat ≤ 2 ^ p.size ∧
        gatherSolutions (OnProcessor.after threads calls) = .ok () s' ∧
        Reported p.energy p.size schedule.cursor.toNat schedule.tileSize.1.toNat s'.minimum s'.solutions) ∧
    ∀ p, lastPosed calls = some p →
      if HostMemory.Fits threads.1.toNat (Backend.workerBytes (Threads R)) then
        (∃ (s' : OnProcessor R) (minimum : R),
          (OnProcessor.after threads calls).answer .minimumEnergy = (.ok (.energy (p.external minimum)), s') ∧
          Optimum p.energy (2 ^ p.size) minimum) ∧
        ∃ (s' : OnProcessor R) (size : Count) (minimum : R) (solutions : List Assignment),
          (OnProcessor.after threads calls).answer .solutions = (.ok (.solutions solutions), s') ∧
          s'.tileInUse = some size ∧ Reported p.energy p.size (2 ^ p.size) size.1.toNat minimum solutions
      else
        ((OnProcessor.after threads calls).answer .minimumEnergy).1 = .error .crash ∧
        ((OnProcessor.after threads calls).answer .solutions).1 = .error .crash := by
  obtain ⟨faithful, workers, problem⟩ := OnProcessor.continues_after threads calls
  generalize OnProcessor.after threads calls = s at *
  have posed : s.problem = lastPosed calls := problem.trans Option.or_none
  have threads' : s.backend.threads = threads := workers
  refine ⟨posed, fun p => lastPosed_eq_some_iff, ?_, ?_⟩
  · intro prepared
    obtain ⟨p, schedule, hp, scheduled⟩ := faithful.exists_of_isPrepared prepared
    obtain ⟨_, s', made, -, -, scheduled', ⟨size, inUse, reported⟩, -, -⟩ :=
      (gatherSolutions_spec faithful hp scheduled).exists_ok
    have tile : schedule.tileSize = size := by
      rw [tileInUse, scheduled'] at inUse
      exact Option.some.inj inUse
    rw [← tile] at reported
    exact ⟨p, schedule, s', posed ▸ hp, scheduled, (faithful.scanning hp scheduled).toNat_cursor_le, made, reported⟩
  · intro p hp
    rw [← posed] at hp
    have completes := OnProcessor.complete_cases faithful hp threads'
    split
    · next fits =>
      rw [if_pos fits] at completes
      obtain ⟨s', done, completed⟩ := completes
      obtain ⟨size, inUse, reported⟩ := completed.finished.shows
      constructor
      · exact ⟨s', s'.minimum, answer_minimumEnergy_of_complete done completed.finished.problem, reported.optimum⟩
      · exact ⟨s', size, s'.minimum, s'.solutions, answer_solutions_of_complete done, inUse, reported⟩
    · next large =>
      rw [if_neg large] at completes
      obtain ⟨s', crash⟩ := completes
      constructor
      · exact congrArg Prod.fst (answer_of_error rfl (error_of_complete crash _))
      · exact congrArg Prod.fst (answer_of_error rfl (error_of_complete crash _))

/-- Two threads, numbers of double precision, and a scan that was begun before its results are asked for. -/
theorem processor_search_optimal_two_threads :
    ∃ (p : Problem Float) (s' : OnProcessor Float) (minimum : Float),
      lastPosed [.setProblem (Matrix.identity Float 2) .maximize, .prepare, .scanRound] = some p ∧
      (OnProcessor.after ⟨2, by decide⟩ [.setProblem (Matrix.identity Float 2) .maximize, .prepare, .scanRound]).answer
        .minimumEnergy = (.ok (.energy (p.external minimum)), s') ∧
      Optimum p.energy (2 ^ p.size) minimum := by
  have posed : (lastPosed [.setProblem (Matrix.identity Float 2) .maximize, .prepare, .scanRound]).isSome = true := by
    decide +kernel
  obtain ⟨p, hp⟩ := Option.isSome_iff_exists.1 posed
  have reads := (processor_search_optimal ⟨2, by decide⟩
    [.setProblem (Matrix.identity Float 2) .maximize, .prepare, .scanRound]).2.2.2 p hp
  rw [if_pos (by decide)] at reads
  obtain ⟨⟨s', minimum, answered, optimum⟩, -⟩ := reads
  exact ⟨p, s', minimum, hp, answered, optimum⟩

end BinaryQuadratic.Solver
