import BinaryQuadratic.Proofs.Solver.Call

/-!
# What calls need and what they leave

Calls need a problem, or a solver that is prepared, or nothing. Some begin with a preparation, and end as it does when it
fails. With what they need, calls on a reliable backend end early in no other way (`perform_makesReady`,
`perform_needsPreparation`), and without it they are refused.
-/

namespace BinaryQuadratic.Solver

open Step Reliable

variable {B R W : Type}

/-- What a call that succeeds leaves: a prepared solver, one that is not prepared, or whichever it was. -/
def Call.readiness : Call R → Option Bool
  | .prepare | .search | .solutions | .energies | .minimumEnergy => some true
  | .setProblem _ _ | .release => some false
  | _ => none

/-- Calls that need a problem, and no preparation. -/
def Call.needsProblem : Call R → Bool
  | .prepare | .search | .solutions | .energies | .minimumEnergy | .problemSize | .direction => true
  | _ => false

/-- Calls that need preparation. -/
def Call.needsPreparation : Call R → Bool
  | .scanRound | .gatherSolutions | .fillEnergies => true
  | _ => false

/-- Calls that read a result of a full scan. -/
def Call.reads : Call R → Bool
  | .solutions | .energies | .minimumEnergy => true
  | _ => false

/-- Calls that begin with a preparation: reads only do so unless there was one before. -/
def Call.prepares (s : Solver B R W) : Call R → Bool
  | .prepare | .search => true
  | .solutions | .energies | .minimumEnergy => !s.lifecycle.isPrepared
  | _ => false

theorem readiness_of_prepares {s : Solver B R W} {call : Call R} (begins : call.prepares s = true) :
    call.readiness = some true := by
  cases call with
  | prepare => rfl
  | search => rfl
  | solutions => rfl
  | energies => rfl
  | minimumEnergy => rfl
  | _ => exact absurd begins Bool.false_ne_true

variable [Scalar R] [Backend B R W] {s s' : Solver B R W} {ending : Halt SolverError} {call : Call R}

/-! ## Calls that are refused -/

theorem answer_of_not_hasProblem (unposed : s.lifecycle.hasProblem = false) (missing : s.problem = none)
    (needs : call.needsProblem = true) : s.answer call = (.error (.error (.lifecycle .noProblem)), s) := by
  cases call with
  | prepare => exact answer_of_error rfl (refused_prepare unposed)
  | search => exact answer_of_error rfl (refused_search unposed)
  | solutions => exact answer_of_error rfl (refused_readSolutions unposed)
  | energies => exact answer_of_error rfl (refused_readEnergies unposed)
  | minimumEnergy => exact answer_of_error rfl (refused_readMinimum unposed)
  | problemSize =>
    have form : perform (B := B) .problemSize = do return .size (← current).size := rfl
    exact answer_of_error form (refused_current missing)
  | direction =>
    have form : perform (B := B) .direction = do return .direction (← current).direction := rfl
    exact answer_of_error form (refused_current missing)
  | _ => exact absurd needs Bool.false_ne_true

theorem answer_of_not_isPrepared (unprepared : s.lifecycle.isPrepared = false)
    (needs : call.needsPreparation = true) :
    s.answer call = (.error (.error (.lifecycle s.lifecycle.refusal)), s) := by
  cases call with
  | scanRound =>
    have form : perform (B := B) .scanRound = scanRound >>= fun told => return .progress told.1 told.2 := rfl
    exact answer_of_error form (refused_scanRound unprepared)
  | gatherSolutions => exact answer_of_error rfl (refused_gatherSolutions unprepared)
  | fillEnergies => exact answer_of_error rfl (refused_fillEnergies unprepared)
  | _ => exact absurd needs Bool.false_ne_true

/-! ## Calls that prepare -/

theorem prepare_of_answer (failed : s.answer .prepare = (.error ending, s')) : prepare s = .error ending s' := by
  cases prepared : prepare s with
  | ok a t =>
    have done : s.answer .prepare = (.ok .done, t) := by
      rw [answer, perform, bind_apply, prepared]
      rfl
    cases done.symm.trans failed
  | error ending' t =>
    have halted : s.answer .prepare = (.error ending', t) := answer_of_error rfl prepared
    obtain ⟨⟨⟩, ⟨⟩⟩ := Prod.mk.inj (halted.symm.trans failed)
    rfl

/-- Reads end as doing what is missing for a full scan does when it fails. -/
theorem answer_of_reads (halted : complete s = .error ending s') (reads : call.reads = true) :
    s.answer call = (.error ending, s') := by
  cases call with
  | solutions => exact answer_of_error rfl (error_of_complete halted _)
  | energies => exact answer_of_error rfl (error_of_complete halted _)
  | minimumEnergy => exact answer_of_error rfl (error_of_complete halted _)
  | _ => exact absurd reads Bool.false_ne_true

/-- Calls that begin with a preparation end as it does when it fails. -/
theorem answer_of_prepares (posed : s.lifecycle.hasProblem = true) (failed : prepare s = .error ending s')
    (begins : call.prepares s = true) : s.answer call = (.error ending, s') := by
  have halted (begins : (!s.lifecycle.isPrepared) = true) : complete s = .error ending s' := by
    have unprepared : s.lifecycle.isPrepared = false := by simpa using begins
    have post : Post complete s (fun _ _ => False) fun ending' t => ending' = ending ∧ t = s' := by
      rw [complete, post_bind, post_require, Lifecycle.requireProblem_of_hasProblem posed]
      simp only [post_bind, post_get, unprepared, if_neg Bool.false_ne_true]
      exact post_of_eq_error failed ⟨rfl, rfl⟩
    cases done : complete s with
    | ok _ t => exact (post.of_ok done).elim
    | error ending' t =>
      obtain ⟨rfl, rfl⟩ := post.of_error done
      rfl
  cases call with
  | prepare => exact answer_of_error rfl failed
  | search =>
    refine answer_of_error rfl ?_
    rw [search, bind_apply, failed]
  | solutions => exact answer_of_reads (halted begins) rfl
  | energies => exact answer_of_reads (halted begins) rfl
  | minimumEnergy => exact answer_of_reads (halted begins) rfl
  | _ => exact absurd begins Bool.false_ne_true

section Reliable

variable [Scalar.Ordered R] {value : Problem R → Index → R} [Reliable B value] {p : Problem R}

/-- With a problem, calls that make ready do so, unless they begin with a preparation and making the pool is refused. -/
theorem perform_makesReady (h : s.Faithful value) (posed : s.problem = some p) (begins : call.readiness = some true) :
    Post (perform call) s (fun _ s' => s'.Faithful value ∧ Kept s s' ∧ s'.lifecycle.isPrepared = true)
      fun ending s' => Kept s s' ∧ s'.lifecycle = .assigned ∧ call.prepares s = true ∧
        s.Refuses p ending s'.backend := by
  have unprepared (missing : s.lifecycle.isPrepared = false) : (!s.lifecycle.isPrepared) = true := by
    rw [missing]
    rfl
  cases call with
  | prepare =>
    rw [perform, post_bind]
    refine (prepare_spec h posed).mono ?_ ?_
    · rintro _ s' ⟨faithful, kept, lifecycle, -⟩
      exact ⟨faithful, kept, by rw [lifecycle]; rfl⟩
    · rintro ending s' ⟨-, kept, left, refused⟩
      exact ⟨kept, left, rfl, refused⟩
  | search =>
    rw [perform, post_bind]
    refine (search_spec h posed).mono ?_ ?_
    · rintro _ s' ⟨faithful, kept, -, lifecycle⟩
      exact ⟨faithful, kept, by rw [lifecycle]; rfl⟩
    · rintro ending s' ⟨-, kept, left, refused⟩
      exact ⟨kept, left, rfl, refused⟩
  | solutions =>
    rw [perform, post_bind]
    refine (readSolutions_spec h posed).mono ?_ ?_
    · rintro _ s' ⟨done, -⟩
      exact ⟨done.faithful, done.kept, Lifecycle.isPrepared_of_hasSolution done.finished.available⟩
    · rintro ending s' ⟨-, kept, left, missing, refused⟩
      exact ⟨kept, left, unprepared missing, refused⟩
  | energies =>
    rw [perform, post_bind]
    refine (readEnergies_spec h posed).mono ?_ ?_
    · rintro _ s' ⟨faithful, kept, finished, -⟩
      exact ⟨faithful, kept, Lifecycle.isPrepared_of_hasSolution finished.available⟩
    · rintro ending s' ⟨-, kept, left, missing, refused⟩
      exact ⟨kept, left, unprepared missing, refused⟩
  | minimumEnergy =>
    rw [perform, post_bind]
    refine (readMinimum_spec h posed).mono ?_ ?_
    · rintro _ s' ⟨done, -⟩
      exact ⟨done.faithful, done.kept, Lifecycle.isPrepared_of_hasSolution done.finished.available⟩
    · rintro ending s' ⟨-, kept, left, missing, refused⟩
      exact ⟨kept, left, unprepared missing, refused⟩
  | _ => exact absurd begins (by rintro ⟨⟩)

/-! ## Calls on a solver that is prepared -/

/-- Rounds and results are made of every solver that is prepared, and leave it prepared. -/
theorem perform_needsPreparation (h : s.Faithful value) (prepared : s.lifecycle.isPrepared = true)
    (needs : call.needsPreparation = true) :
    Post (perform call) s (fun _ s' => s'.Faithful value ∧ s'.lifecycle.isPrepared = true) fun _ _ => False := by
  obtain ⟨p, schedule, posed, scheduled⟩ := h.exists_of_isPrepared prepared
  have ready {s' : Solver B R W} {solution energy : Bool} (faithful : s'.Faithful value)
      (lifecycle : s'.lifecycle = .prepared solution energy) : s'.Faithful value ∧ s'.lifecycle.isPrepared = true := by
    rw [lifecycle]
    exact ⟨faithful, rfl⟩
  cases call with
  | scanRound =>
    rw [perform, post_bind]
    refine (scanRound_spec h posed scheduled).mono ?_ fun _ _ never => never
    rintro _ s' ⟨faithful, -, lifecycle, -⟩
    exact ready faithful lifecycle
  | gatherSolutions =>
    rw [perform, post_bind]
    refine (gatherSolutions_spec h posed scheduled).mono ?_ fun _ _ never => never
    rintro _ s' ⟨faithful, -, -, -, -, lifecycle⟩
    exact ready faithful lifecycle
  | fillEnergies =>
    rw [perform, post_bind]
    refine (fillEnergies_spec h posed scheduled).mono ?_ fun _ _ never => never
    rintro _ s' ⟨faithful, -, -, -, -, -, lifecycle⟩
    exact ready faithful lifecycle
  | _ => exact absurd needs Bool.false_ne_true

end Reliable

end BinaryQuadratic.Solver
