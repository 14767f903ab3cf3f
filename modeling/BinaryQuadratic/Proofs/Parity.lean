import BinaryQuadratic.Proofs.Agreement
import BinaryQuadratic.Proofs.Optimality.Device
import BinaryQuadratic.Proofs.Optimality.Processor

/-!
# The processor beside a device

A solver on the processor and one on a device, with the same problem and tiles of the same size, report by energies and
by quadratic forms. Both are the same to the last bit exactly if all that meets a zero in the forms of the assignments
that the processor reports is finite. Which threads, workers and calls there were makes no difference.
-/

namespace BinaryQuadratic.Solver

open Step

section Preferred

variable {B R W : Type} [Scalar R] [Backend B R W]

/-- A new solver that was asked for tiles of this size and given this problem. -/
def preferring (b : B) (size : Count) (p : Problem R) : Solver B R W :=
  { (fresh b : Solver B R W) with tileSize := size, problem := some p, lifecycle := .assigned }

theorem run_preferring {b : B} {size : Count} {w : Matrix R} {d : Direction} {p : Problem R}
    (posed : Problem.pose w d = .ok p) :
    ((fresh b : Solver B R W).run [.setPreference (.tileSize size.1), .setProblem w d]).2 = preferring b size p := by
  let asked : Solver B R W := { (fresh b : Solver B R W) with tileSize := size }
  have change : (Preference.tileSize size.1).change = .ok (some size) := dif_pos size.2
  have set : setPreference (.tileSize size.1) (fresh b) = .ok () asked := by
    rw [setPreference, change]
    rfl
  have taken : setProblem w d asked = .ok () (preferring b size p) := by
    rw [setProblem, posed]
    rfl
  have first : (fresh b : Solver B R W).answer (.setPreference (.tileSize size.1)) = (.ok .done, asked) := by
    rw [answer, perform, bind_apply, set]
    rfl
  have second : asked.answer (.setProblem w d) = (.ok .done, preferring b size p) := by
    rw [answer, perform, bind_apply, taken]
    rfl
  rw [run_cons, run_cons, first, second]
  rfl

end Preferred

variable {R : Type} [Scalar R] [Scalar.Ieee R] {p : Problem R}

/-! ## Finished scans -/

/-- Scans that were finished on both show the same exactly if the solutions of the processor are tame. -/
theorem same_results_iff {s t : OnProcessor R} {s' t' : OnDevice R} (done : Completed Problem.energy s p t)
    (done' : Completed Problem.form s' p t') (tile : t'.tileInUse = t.tileInUse) :
    (p.external t'.minimum = p.external t.minimum ∧ t'.solutions = t.solutions) ↔ p.TameAt t.solutions := by
  obtain ⟨size, inUse, reported⟩ := done.finished.shows
  obtain ⟨size', inUse', reported'⟩ := done'.finished.shows
  obtain rfl : size' = size := Option.some.inj (inUse'.symm.trans (tile.trans inUse))
  exact Problem.same_reported_iff (UInt64.lt_iff_toNat_lt.1 size'.2) reported reported'

/-- What is read of a solver for its problem is what it shows once a scan is finished. -/
theorem completed_of_answers {B W : Type} [Backend B R W] {value : Problem R → Index → R} [Reliable B value]
    {s s' : Solver B R W} {minimum : R} {solutions : List Assignment} (h : s.Faithful value)
    (posed : s.problem = some p) (read : s.answer .solutions = (.ok (.solutions solutions), s'))
    (read' : (s.answer .minimumEnergy).1 = .ok (.energy minimum)) :
    Completed value s p s' ∧ solutions = s'.solutions ∧ minimum = p.external s'.minimum := by
  obtain ⟨done, shown⟩ := complete_of_answer_solutions read
  have completed := (complete_spec h posed).of_ok done
  rw [answer_minimumEnergy_of_complete done completed.finished.problem] at read'
  cases shown
  cases read'
  exact ⟨completed, rfl, rfl⟩

namespace OnDevice

/-- A new solver on an ample device finishes the scan that was asked for. -/
theorem complete_preferring {capacity : Option Nat} {workers size : Count}
    (faithful : (preferring ⟨.fresh (.empty capacity), "host", workers⟩ size p : OnDevice R).Faithful Problem.form)
    (ample : SharedDevice.Ample R capacity workers p.size (Schedule.start p.size size workers).tileSize.1.toNat) :
    ∃ s' : OnDevice R, complete (preferring ⟨.fresh (.empty capacity), "host", workers⟩ size p) = .ok () s' ∧
      Completed Problem.form (preferring ⟨.fresh (.empty capacity), "host", workers⟩ size p) p s' := by
  have never : Post complete (preferring ⟨.fresh (.empty capacity), "host", workers⟩ size p : OnDevice R)
      (fun _ s' => Completed Problem.form (preferring ⟨.fresh (.empty capacity), "host", workers⟩ size p) p s')
      fun _ _ => False := by
    refine (complete_spec faithful rfl).mono (fun _ _ done => done) ?_
    intro ending s' left
    obtain ⟨-, -, -, -, refused⟩ := left
    exact (SharedDevice.createPool_ok ample).of_error (refused.of_idle rfl)
  obtain ⟨_, s', done, completed⟩ := never.exists_ok
  exact ⟨s', done, completed⟩

end OnDevice

/-! ## Both sides -/

/-- Calls that ask for tiles of this size and pose a problem. -/
def asking (size : Count) (w : Matrix R) (d : Direction) : List (Call R) :=
  [.setPreference (.tileSize size.1), .setProblem w d]

/-- **Where the processor and a device report the same.** A new solver on an ample device that is given a problem and a
tile size answers; so does one on the processor, unless host memory cannot hold its threads. Minimum and solutions are
then the same to the last bit exactly if the solutions that the processor reports are tame. The same holds of what is
read of any two solvers on the processor and on a device, whatever was called on them before, if they have the same
problem and tiles of the same size. -/
theorem device_eq_processor_iff_tameAt (threads workers size : Count) (capacity : Option Nat) (w : Matrix R)
    (d : Direction) (posed : Problem.pose w d = .ok p)
    (ample : SharedDevice.Ample R capacity workers p.size (Schedule.start p.size size workers).tileSize.1.toNat) :
    (∃ (minimum' : R) (solutions' : List Assignment),
      ((OnDevice.after capacity workers (asking size w d)).answer .minimumEnergy).1 = .ok (.energy minimum') ∧
      ((OnDevice.after capacity workers (asking size w d)).answer .solutions).1 = .ok (.solutions solutions') ∧
      if HostMemory.Fits threads.1.toNat (Backend.workerBytes (Threads R)) then
        ∃ (minimum : R) (solutions : List Assignment),
          ((OnProcessor.after threads (asking size w d)).answer .minimumEnergy).1 = .ok (.energy minimum) ∧
          ((OnProcessor.after threads (asking size w d)).answer .solutions).1 = .ok (.solutions solutions) ∧
          ((minimum' = minimum ∧ solutions' = solutions) ↔ p.TameAt solutions)
      else
        ((OnProcessor.after threads (asking size w d)).answer .minimumEnergy).1 = .error .crash ∧
        ((OnProcessor.after threads (asking size w d)).answer .solutions).1 = .error .crash) ∧
    ∀ (calls calls' : List (Call R)) (s : OnProcessor R) (s' : OnDevice R) (minimum minimum' : R)
      (solutions solutions' : List Assignment), lastPosed calls = some p → lastPosed calls' = some p →
      ((OnProcessor.after threads calls).answer .minimumEnergy).1 = .ok (.energy minimum) →
      (OnProcessor.after threads calls).answer .solutions = (.ok (.solutions solutions), s) →
      ((OnDevice.after capacity workers calls').answer .minimumEnergy).1 = .ok (.energy minimum') →
      (OnDevice.after capacity workers calls').answer .solutions = (.ok (.solutions solutions'), s') →
      s'.tileInUse = s.tileInUse → ((minimum' = minimum ∧ solutions' = solutions) ↔ p.TameAt solutions) := by
  constructor
  · obtain ⟨faithful, -, -⟩ := OnProcessor.continues_after threads (asking size w d)
    obtain ⟨faithful', -, -⟩ := OnDevice.continues_after capacity workers (asking size w d)
    have left : OnProcessor.after threads (asking size w d) = preferring ⟨threads⟩ size p := run_preferring posed
    have left' : OnDevice.after capacity workers (asking size w d) =
        preferring ⟨.fresh (.empty capacity), "host", workers⟩ size p := run_preferring posed
    rw [left] at faithful ⊢
    rw [left'] at faithful' ⊢
    obtain ⟨t', done', completed'⟩ := OnDevice.complete_preferring faithful' ample
    have completes := OnProcessor.complete_cases faithful rfl (show _ = threads from rfl)
    refine ⟨p.external t'.minimum, t'.solutions, ?_, ?_, ?_⟩
    · exact congrArg Prod.fst (answer_minimumEnergy_of_complete done' completed'.finished.problem)
    · exact congrArg Prod.fst (answer_solutions_of_complete done')
    · split
      · next fits =>
        rw [if_pos fits] at completes
        obtain ⟨t, done, completed⟩ := completes
        refine ⟨p.external t.minimum, t.solutions, ?_, ?_, same_results_iff completed completed' ?_⟩
        · exact congrArg Prod.fst (answer_minimumEnergy_of_complete done completed.finished.problem)
        · exact congrArg Prod.fst (answer_solutions_of_complete done)
        · -- the tile size does not depend on how many workers there are
          exact completed'.tileInUse.trans completed.tileInUse.symm
      · next large =>
        rw [if_neg large] at completes
        obtain ⟨t, crash⟩ := completes
        constructor
        · exact congrArg Prod.fst (answer_of_error rfl (error_of_complete crash _))
        · exact congrArg Prod.fst (answer_of_error rfl (error_of_complete crash _))
  · intro calls calls' s s' minimum minimum' solutions solutions' hp hp' least first least' first' tile
    obtain ⟨faithful, -, problem⟩ := OnProcessor.continues_after threads calls
    obtain ⟨faithful', -, problem'⟩ := OnDevice.continues_after capacity workers calls'
    obtain ⟨done, rfl, rfl⟩ := completed_of_answers faithful ((problem.trans Option.or_none).trans hp) first least
    obtain ⟨done', rfl, rfl⟩ :=
      completed_of_answers faithful' ((problem'.trans Option.or_none).trans hp') first' least'
    exact same_results_iff done done' tile

/-! ## An infinite weight -/

/-- The least energy of one variable with an infinite weight is wanted. -/
def infiniteProblem : Problem Float := ⟨infiniteWeight, .minimize, rfl, by decide⟩

theorem pose_infiniteWeight : Problem.pose infiniteWeight .minimize = .ok infiniteProblem := by
  have symmetric : infiniteWeight.asymmetry = none := by decide +kernel
  rw [Problem.pose, dif_pos (show infiniteWeight.rows = infiniteWeight.cols from rfl), symmetric]
  rfl

/-- An unlimited device is ample for one worker with one variable. -/
theorem ample_infiniteProblem :
    SharedDevice.Ample Float none ⟨1, by decide⟩ infiniteProblem.size
      (Schedule.start infiniteProblem.size ⟨2, by decide⟩ ⟨1, by decide⟩).tileSize.1.toNat where
  pool := by decide
  room _ limited := nomatch limited
  blocks := ⟨by decide, by decide, by decide, by decide, by decide⟩

/-- The processor leaves the variable out and reports zero; the form of that index is undefined, so a device reports the
other index, and infinity. -/
theorem device_ne_processor_infiniteWeight :
    Problem.pose infiniteWeight .minimize = .ok infiniteProblem ∧
    SharedDevice.Ample Float none ⟨1, by decide⟩ infiniteProblem.size
      (Schedule.start infiniteProblem.size ⟨2, by decide⟩ ⟨1, by decide⟩).tileSize.1.toNat ∧
    ∃ (minimum minimum' : Float) (solutions solutions' : List Assignment),
      ((OnProcessor.after ⟨1, by decide⟩ (asking ⟨2, by decide⟩ infiniteWeight .minimize)).answer .minimumEnergy).1 =
        .ok (.energy minimum) ∧
      ((OnProcessor.after ⟨1, by decide⟩ (asking ⟨2, by decide⟩ infiniteWeight .minimize)).answer .solutions).1 =
        .ok (.solutions solutions) ∧
      ((OnDevice.after none ⟨1, by decide⟩ (asking ⟨2, by decide⟩ infiniteWeight .minimize)).answer .minimumEnergy).1 =
        .ok (.energy minimum') ∧
      ((OnDevice.after none ⟨1, by decide⟩ (asking ⟨2, by decide⟩ infiniteWeight .minimize)).answer .solutions).1 =
        .ok (.solutions solutions') ∧
      minimum' ≠ minimum ∧ solutions' ≠ solutions := by
  refine ⟨pose_infiniteWeight, ample_infiniteProblem, ?_⟩
  have apart :
      (match
        ((OnProcessor.after ⟨1, by decide⟩ (asking ⟨2, by decide⟩ infiniteWeight .minimize)).answer .minimumEnergy).1,
        ((OnProcessor.after ⟨1, by decide⟩ (asking ⟨2, by decide⟩ infiniteWeight .minimize)).answer .solutions).1,
        ((OnDevice.after none ⟨1, by decide⟩ (asking ⟨2, by decide⟩ infiniteWeight .minimize)).answer .minimumEnergy).1,
        ((OnDevice.after none ⟨1, by decide⟩ (asking ⟨2, by decide⟩ infiniteWeight .minimize)).answer .solutions).1 with
      | .ok (.energy minimum), .ok (.solutions solutions), .ok (.energy minimum'), .ok (.solutions solutions') =>
        decide (minimum'.toBits ≠ minimum.toBits) && decide (solutions' ≠ solutions)
      | _, _, _, _ => false) = true := by
    decide +kernel
  split at apart
  · next minimum solutions minimum' solutions' least first least' first' =>
    obtain ⟨bits, assignments⟩ := Bool.and_eq_true_iff.1 apart
    refine ⟨minimum, minimum', solutions, solutions', least, first, least', first', ?_, ?_⟩
    · intro same
      exact of_decide_eq_true bits (congrArg Float.toBits same)
    · exact of_decide_eq_true assignments
  · exact absurd apart Bool.false_ne_true

/-- So the solution that the processor reports is not tame. -/
theorem device_eq_processor_iff_tameAt_infiniteWeight :
    ∃ solutions : List Assignment,
      ((OnProcessor.after ⟨1, by decide⟩ (asking ⟨2, by decide⟩ infiniteWeight .minimize)).answer .solutions).1 =
        .ok (.solutions solutions) ∧
      ¬ infiniteProblem.TameAt solutions := by
  obtain ⟨⟨minimum', solutions', -, read', reads⟩, -⟩ :=
    device_eq_processor_iff_tameAt ⟨1, by decide⟩ ⟨1, by decide⟩ ⟨2, by decide⟩ none infiniteWeight .minimize
      pose_infiniteWeight ample_infiniteProblem
  rw [if_pos (by decide)] at reads
  obtain ⟨minimum, solutions, -, read, same⟩ := reads
  refine ⟨solutions, read, ?_⟩
  intro tame
  obtain ⟨-, rfl⟩ := same.2 tame
  have apart :
      (match
        ((OnProcessor.after ⟨1, by decide⟩ (asking ⟨2, by decide⟩ infiniteWeight .minimize)).answer .solutions).1,
        ((OnDevice.after none ⟨1, by decide⟩ (asking ⟨2, by decide⟩ infiniteWeight .minimize)).answer .solutions).1 with
      | .ok (.solutions solutions), .ok (.solutions solutions') => decide (solutions' ≠ solutions)
      | _, _ => false) = true := by
    decide +kernel
  rw [read, read'] at apart
  exact of_decide_eq_true apart rfl

end BinaryQuadratic.Solver
