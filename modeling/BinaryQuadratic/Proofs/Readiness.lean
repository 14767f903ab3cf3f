import BinaryQuadratic.Proofs.Optimality.Processor
import BinaryQuadratic.Proofs.Solver.Readiness
import BinaryQuadratic.Proofs.Solver.Staffed

/-!
# Calls that come out of order

Whether a call is refused for its order can be told from the calls before it and from which of them succeeded. Without a
problem, all calls that have to do with one are refused, and only those. Rounds and results are also refused for a
problem that was not prepared since it was taken up, or since the workers were given up. A call that is refused leaves
the solver as it is.

No other error is ever an answer on the processor: the parts of a solver that a call looks for are there whenever its
lifecycle says so.
-/

namespace BinaryQuadratic.Solver

open Step

/-! ## What a run leaves -/

section History

variable {R : Type}

/-- What a call that ended like this leaves. -/
def Call.leaves (call : Call R) (outcome : Outcome R) : Option Bool := if outcome.isOk then call.readiness else none

/-- What the last call leaves of those that succeeded in making ready, or in giving up what was made ready. -/
def lastReadiness (calls : List (Call R)) (outcomes : List (Outcome R)) : Option Bool :=
  (calls.zip outcomes).reverse.findSome? fun ended => ended.1.leaves ended.2

theorem lastReadiness_cons (call : Call R) (calls : List (Call R)) (outcome : Outcome R) (outcomes : List (Outcome R)) :
    lastReadiness (call :: calls) (outcome :: outcomes) =
      (lastReadiness calls outcomes).or (call.leaves outcome) := by
  rw [lastReadiness, List.zip_cons_cons, List.reverse_cons, List.findSome?_append, List.findSome?_singleton]
  rfl

end History

/-! ## On the processor -/

section Processor

variable [Scalar R] [Scalar.Ordered R] {s : OnProcessor R} {p : Problem R}

/-- Host memory can hold one worker for each thread. -/
def OnProcessor.HasRoom (s : OnProcessor R) : Prop :=
  HostMemory.Fits s.backend.threads.1.toNat (Backend.workerBytes (Threads R))

instance (s : OnProcessor R) : Decidable s.HasRoom := inferInstanceAs (Decidable (HostMemory.Fits _ _))

theorem OnProcessor.hasRoom_of_isPrepared (h : s.Faithful Problem.energy) (prepared : s.lifecycle.isPrepared = true) :
    s.HasRoom := by
  obtain ⟨p, schedule, posed, scheduled⟩ := h.exists_of_isPrepared prepared
  exact h.fits (h.scanning posed scheduled)

/-- Calls that make ready succeed if host memory can hold the workers, and crash otherwise. -/
theorem OnProcessor.perform_makesReady (h : s.Faithful Problem.energy) (posed : s.problem = some p) {call : Call R}
    (begins : call.readiness = some true) :
    Post (perform call) s (fun _ s' => s.HasRoom ∧ s'.lifecycle.isPrepared = true)
      fun ending s' => ¬ s.HasRoom ∧ ending = .crash ∧ s'.lifecycle.isPrepared = false := by
  refine (Solver.perform_makesReady h posed begins).mono ?_ ?_
  · rintro _ s' ⟨faithful, kept, prepared⟩
    have room := OnProcessor.hasRoom_of_isPrepared faithful prepared
    have same : s'.backend.threads = s.backend.threads := kept.workers
    rw [OnProcessor.HasRoom, same] at room
    exact ⟨room, prepared⟩
  · rintro ending s' ⟨-, left, -, refused⟩
    obtain ⟨large, crashed⟩ := OnProcessor.crash_of_refuses refused
    exact ⟨large, crashed, by rw [left]; rfl⟩

/-- With a problem, calls that need one succeed, but for those that make ready where host memory cannot hold the
workers. -/
theorem answer_of_posed (h : s.Faithful Problem.energy) (posed : s.problem = some p) {call : Call R}
    (needs : call.needsProblem = true) :
    if call.readiness = some true ∧ ¬ s.HasRoom then (s.answer call).1 = .error .crash
    else (s.answer call).1.isOk = true := by
  have begins (makes : call.readiness = some true) :
      if call.readiness = some true ∧ ¬ s.HasRoom then (s.answer call).1 = .error .crash
      else (s.answer call).1.isOk = true := by
    refine (answer_iff call fun outcome _ => if call.readiness = some true ∧ ¬ s.HasRoom then outcome = .error .crash
      else outcome.isOk = true).2 ((OnProcessor.perform_makesReady h posed makes).mono ?_ ?_)
    · rintro reply s' ⟨room, -⟩
      rw [if_neg fun large => large.2 room]
      rfl
    · rintro ending s' ⟨large, rfl, -⟩
      rw [if_pos ⟨makes, large⟩]
  cases call with
  | prepare => exact begins rfl
  | search => exact begins rfl
  | solutions => exact begins rfl
  | energies => exact begins rfl
  | minimumEnergy => exact begins rfl
  | problemSize =>
    rw [if_neg fun makes => nomatch makes.1]
    exact (answer_iff .problemSize fun outcome _ => outcome.isOk = true).2 ((post_bind.2 ((post_current_of posed).2 rfl)))
  | direction =>
    rw [if_neg fun makes => nomatch makes.1]
    exact (answer_iff .direction fun outcome _ => outcome.isOk = true).2 ((post_bind.2 ((post_current_of posed).2 rfl)))
  | _ => exact absurd needs Bool.false_ne_true

/-- What a call leaves is told by its outcome. -/
def Tells (s : OnProcessor R) (call : Call R) (outcome : Outcome R) (s' : OnProcessor R) : Prop :=
  s'.lifecycle.isPrepared = (call.leaves outcome).getD s.lifecycle.isPrepared

theorem answer_tells (h : s.Faithful Problem.energy) (call : Call R) :
    s.Tells call (s.answer call).1 (s.answer call).2 := by
  have begins (makes : call.readiness = some true) (needs : call.needsProblem = true) :
      s.Tells call (s.answer call).1 (s.answer call).2 := by
    cases posed : s.problem with
    | none =>
      have missing : s.lifecycle.hasProblem = false := by rw [h.hasProblem, posed]; rfl
      rw [answer_of_not_hasProblem missing posed needs]
      rfl
    | some p =>
      refine (answer_iff call (s.Tells call)).2 ((OnProcessor.perform_makesReady h posed makes).mono ?_ ?_)
      · rintro reply s' ⟨-, prepared⟩
        exact prepared.trans (by rw [Call.leaves, makes]; rfl)
      · rintro ending s' ⟨large, -, left⟩
        -- without room for the workers it was not prepared before either
        have before : s.lifecycle.isPrepared = false := by
          by_contra prepared
          exact large (OnProcessor.hasRoom_of_isPrepared h (Bool.eq_true_of_not_eq_false prepared))
        exact left.trans before.symm
  have goesOn (needs : call.needsPreparation = true) (neither : call.readiness = none) :
      s.Tells call (s.answer call).1 (s.answer call).2 := by
    cases prepared : s.lifecycle.isPrepared with
    | false =>
      rw [answer_of_not_isPrepared prepared needs]
      rfl
    | true =>
      refine (answer_iff call (s.Tells call)).2 ((perform_needsPreparation h prepared needs).mono ?_ ?_)
      · rintro reply s' ⟨-, after⟩
        exact after.trans (by rw [Call.leaves, neither]; exact prepared.symm)
      · exact fun _ _ never => never.elim
  have still (quiet : call.isQuiet = true) (neither : call.readiness = none) :
      s.Tells call (s.answer call).1 (s.answer call).2 := by
    have same : Post (perform call) s (fun _ s' => s'.lifecycle.isPrepared = s.lifecycle.isPrepared)
        fun _ s' => s'.lifecycle.isPrepared = s.lifecycle.isPrepared := perform_quiet (fun _ => rfl) quiet
    refine (answer_iff call (s.Tells call)).2 (same.mono ?_ fun _ _ after => after)
    intro reply s' after
    exact after.trans (by rw [Call.leaves, neither]; rfl)
  cases call with
  | setProblem w d =>
    refine (answer_iff _ (s.Tells (.setProblem w d))).2 ?_
    rw [perform, post_bind]
    refine (setProblem_spec h w d).mono ?_ ?_
    · rintro _ s' ⟨-, -, -, p, -, -, lifecycle⟩
      show s'.lifecycle.isPrepared = false
      rw [lifecycle]
      rfl
    · rintro ending s' ⟨rfl, -⟩
      rfl
  | release =>
    refine (answer_iff _ (s.Tells .release)).2 ?_
    rw [perform, post_bind]
    refine (release_spec h).mono ?_ fun _ _ never => never.elim
    rintro _ s' ⟨-, -, -, -, lifecycle⟩
    show s'.lifecycle.isPrepared = false
    rw [lifecycle]
    exact Lifecycle.isPrepared_invalidate _
  | prepare => exact begins rfl rfl
  | search => exact begins rfl rfl
  | solutions => exact begins rfl rfl
  | energies => exact begins rfl rfl
  | minimumEnergy => exact begins rfl rfl
  | scanRound => exact goesOn rfl rfl
  | gatherSolutions => exact goesOn rfl rfl
  | fillEnergies => exact goesOn rfl rfl
  | _ => exact still rfl rfl

/-- After a run, a solver is prepared if the last call says so that left it prepared or not. -/
theorem run_isPrepared (h : s.Faithful Problem.energy) (calls : List (Call R)) :
    (s.run calls).2.lifecycle.isPrepared = (lastReadiness calls (s.run calls).1).getD s.lifecycle.isPrepared := by
  induction calls generalizing s with
  | nil => rfl
  | cons call calls ih =>
    have told : (s.answer call).2.lifecycle.isPrepared = _ := answer_tells h call
    rw [run_cons, lastReadiness_cons]
    show ((s.answer call).2.run calls).2.lifecycle.isPrepared = _
    rw [ih (answer_spec h call).1, told]
    cases lastReadiness calls ((s.answer call).2.run calls).1 <;> rfl

end Processor

/-- Whether the solver is ready after these calls: the last call that succeeded in making it ready, or in giving up
what was made ready, made it ready. -/
def OnProcessor.isReady {R : Type} [Scalar R] (threads : Count) (calls : List (Call R)) : Bool :=
  (lastReadiness calls ((fresh ⟨threads⟩ : OnProcessor R).run calls).1).getD false

/-- The parts of a solver agree, and calls are refused exactly if they come out of order, for a solver for which this
problem was posed, if any, and which is ready or not. -/
structure OnProcessor.Orderly {R : Type} [Scalar R] (s : OnProcessor R) (posed : Option (Problem R)) (ready : Bool) :
    Prop where
  /-- A problem is there if the lifecycle says so, and a schedule, with as many workers as it counts on, made for its
  tile size and for the weights of the problem. -/
  staffed : s.Staffed (fun _ _ => True) fun weights _ worker => worker.weights = weights
  hasSolution : s.lifecycle.hasEnergy = true → s.lifecycle.hasSolution = true
  isPrepared : s.lifecycle.hasSolution = true → s.lifecycle.isPrepared = true
  hasProblem : s.lifecycle.isPrepared = true → s.lifecycle.hasProblem = true
  problem_eq : s.problem = posed
  isPrepared_eq : s.lifecycle.isPrepared = ready
  /-- Calls that need a problem are refused without one, and only then; those that make ready crash where host memory
  cannot hold the workers. -/
  needsProblem (call : Call R) : call.needsProblem = true →
    if posed = none then s.answer call = (.error (.error (.lifecycle .noProblem)), s)
    else if call.readiness = some true ∧ ¬ s.HasRoom then (s.answer call).1 = .error .crash
    else (s.answer call).1.isOk = true
  /-- Calls that need preparation are refused without a problem or if it is not ready, and only then. -/
  needsPreparation (call : Call R) : call.needsPreparation = true →
    if posed = none then s.answer call = (.error (.error (.lifecycle .noProblem)), s)
    else if ready = true then (s.answer call).1.isOk = true
    else s.answer call = (.error (.error (.lifecycle .notPrepared)), s)

/-- **Calls in order.** After any calls, the parts of a solver on the processor agree. Calls that need a problem are
refused exactly if none was posed, and calls that need preparation exactly if none was posed or if it was not made ready
since it was posed or since the workers were given up, and which of the two is the error. A call that is refused changes
nothing. -/
theorem processor_refuses_iff_out_of_order {R : Type} [Scalar R] [Scalar.Ordered R] (threads : Count)
    (calls : List (Call R)) :
    (OnProcessor.after threads calls).Orderly (lastPosed calls) (OnProcessor.isReady threads calls) := by
  obtain ⟨faithful, -, problem⟩ := OnProcessor.continues_after threads calls
  have staffed : (OnProcessor.after threads calls).Excusably (fun _ => False)
      (Staffed (fun _ _ => True) fun weights _ worker => worker.weights = weights) :=
    (enduring_staffed Threads.ledger).run calls (Or.inr (staffed_fresh trivial))
  have ready : (OnProcessor.after threads calls).lifecycle.isPrepared = OnProcessor.isReady threads calls :=
    run_isPrepared (faithful_fresh fun _ _ none => absurd none List.not_mem_nil) calls
  generalize OnProcessor.after threads calls = s at *
  have posed : s.problem = lastPosed calls := problem.trans Option.or_none
  rw [← posed, ← ready]
  have unposed (missing : s.problem = none) : s.lifecycle.hasProblem = false := by
    rw [faithful.hasProblem, missing]
    rfl
  refine ⟨staffed.resolve_left id, (staffed.resolve_left id).hasSolution, Lifecycle.isPrepared_of_hasSolution,
    Lifecycle.hasProblem_of_isPrepared, rfl, rfl, fun call needs => ?_, fun call needs => ?_⟩
  · cases problem : s.problem with
    | none => exact answer_of_not_hasProblem (unposed problem) problem needs
    | some p =>
      rw [if_neg (Option.some_ne_none p)]
      exact answer_of_posed faithful problem needs
  · cases problem : s.problem with
    | none =>
      have unprepared := Lifecycle.isPrepared_of_not_hasProblem (unposed problem)
      rw [if_pos rfl, answer_of_not_isPrepared unprepared needs, Lifecycle.refusal, unposed problem]
      rfl
    | some p =>
      rw [if_neg (Option.some_ne_none p)]
      cases prepared : s.lifecycle.isPrepared with
      | true =>
        refine (answer_iff call fun outcome _ => outcome.isOk = true).2 ?_
        exact (perform_needsPreparation faithful prepared needs).mono (fun _ _ _ => rfl) fun _ _ never => never.elim
      | false =>
        rw [if_neg Bool.false_ne_true, answer_of_not_isPrepared prepared needs, Lifecycle.refusal, faithful.hasProblem,
          problem]
        rfl

/-- Workers are given up after a problem was prepared and scanned: rounds are refused until it is prepared again. -/
theorem processor_refuses_iff_out_of_order_released :
    let calls := [.setProblem (Matrix.identity Float 2) .maximize, .search, .scanRound, .release]
    let s := OnProcessor.after ⟨2, by decide⟩ calls
    s.answer .scanRound = (.error (.error (.lifecycle .notPrepared)), s) ∧ (s.answer .energies).1.isOk = true := by
  intro calls s
  have orderly := processor_refuses_iff_out_of_order (R := Float) ⟨2, by decide⟩ calls
  have posed : (lastPosed calls).isSome = true := by decide +kernel
  have given : OnProcessor.isReady ⟨2, by decide⟩ calls = false := by decide +kernel
  have some : lastPosed calls ≠ none := Option.isSome_iff_ne_none.1 posed
  constructor
  · have refused := orderly.needsPreparation .scanRound rfl
    rwa [if_neg some, if_neg (by rw [given]; exact Bool.false_ne_true)] at refused
  · have read := orderly.needsProblem .energies rfl
    have room : s.HasRoom := by decide +kernel
    rwa [if_neg some, if_neg fun large => large.2 room] at read

end BinaryQuadratic.Solver
