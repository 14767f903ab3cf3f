import BinaryQuadratic.Proofs.Solver.Results

/-!
# Steps out of order

A step that comes out of order is refused and changes nothing.
-/

namespace BinaryQuadratic.Solver

open Step

variable {B R W : Type} {s : Solver B R W}

/-- The step is refused with this error, and leaves the solver as it is. -/
def Refused {α : Type} (error : LifecycleError) (step : Action B R W α) (s : Solver B R W) : Prop :=
  step s = .error (.error (.lifecycle error)) s

/-- The step is refused for its order, and leaves the solver as it is. -/
def OutOfOrder {α : Type} (step : Action B R W α) (s : Solver B R W) : Prop :=
  ∃ error, step s = .error (.error (.lifecycle error)) s

variable {α β : Type} {step : Action B R W α} {error : LifecycleError}

/-- What follows a step that is refused does not begin. -/
theorem Refused.bind (h : Refused error step s) (next : α → Action B R W β) : Refused error (step >>= next) s := by
  rw [Refused, bind_apply, h]

theorem OutOfOrder.post {ok : α → Solver B R W → Prop} {halt : Halt SolverError → Solver B R W → Prop}
    (h : OutOfOrder step s) (h' : ∀ error, halt (.error (.lifecycle error)) s) : Post step s ok halt := by
  obtain ⟨error, refused⟩ := h
  exact post_of_eq_error refused (h' error)

theorem refused_require {allowed : Lifecycle → Except LifecycleError Unit} (h : allowed s.lifecycle = .error error) :
    Refused error (require allowed : Action B R W Unit) s := by
  rw [Refused, require, bind_apply]
  show (Step.ofExcept SolverError.lifecycle (allowed s.lifecycle) : Action B R W Unit) s = _
  rw [h]
  rfl

theorem refused_moveOn {move : Lifecycle → Except LifecycleError Lifecycle} (h : move s.lifecycle = .error error) :
    Refused error (moveOn move : Action B R W Unit) s := by
  rw [Refused, moveOn, bind_apply]
  show ((Step.ofExcept SolverError.lifecycle (move s.lifecycle)) >>= _ : Action B R W Unit) s = _
  rw [h]
  rfl

/-! ## Without a problem -/

theorem refused_current (missing : s.problem = none) : Refused .noProblem (current : Action B R W (Problem R)) s := by
  have post : Post (current : Action B R W (Problem R)) s (fun _ _ => False)
      fun ending s' => ending = .error (.lifecycle .noProblem) ∧ s' = s := by
    rw [post_current, missing]
    exact ⟨rfl, rfl⟩
  cases done : (current : Action B R W (Problem R)) s with
  | ok p s' => exact (post.of_ok done).elim
  | error ending s' =>
    obtain ⟨rfl, rfl⟩ := post.of_error done
    exact done

section Unposed

variable [Scalar R] [Backend B R W] (h : s.lifecycle.hasProblem = false)
include h

theorem refused_prepare : Refused .noProblem (prepare : Action B R W Unit) s :=
  (refused_require (Lifecycle.requireProblem_of_not_hasProblem h)).bind _

theorem refused_search : Refused .noProblem (search : Action B R W Unit) s := (refused_prepare h).bind _

theorem refused_complete : Refused .noProblem (complete : Action B R W Unit) s :=
  (refused_require (Lifecycle.requireProblem_of_not_hasProblem h)).bind _

theorem refused_readSolutions : Refused .noProblem (readSolutions : Action B R W (List Assignment)) s :=
  (refused_complete h).bind _

theorem refused_readEnergies : Refused .noProblem (readEnergies : Action B R W (List R)) s := (refused_complete h).bind _

theorem refused_readMinimum : Refused .noProblem (readMinimum : Action B R W R) s := (refused_complete h).bind _

theorem outOfOrder_prepare : OutOfOrder (prepare : Action B R W Unit) s := ⟨_, refused_prepare h⟩

theorem outOfOrder_search : OutOfOrder (search : Action B R W Unit) s := ⟨_, refused_search h⟩

theorem outOfOrder_readSolutions : OutOfOrder (readSolutions : Action B R W (List Assignment)) s :=
  ⟨_, refused_readSolutions h⟩

theorem outOfOrder_readEnergies : OutOfOrder (readEnergies : Action B R W (List R)) s := ⟨_, refused_readEnergies h⟩

theorem outOfOrder_readMinimum : OutOfOrder (readMinimum : Action B R W R) s := ⟨_, refused_readMinimum h⟩

end Unposed

/-! ## Before preparing -/

section Unprepared

variable [Scalar R] [Backend B R W] (h : s.lifecycle.isPrepared = false)
include h

omit [Scalar R] in
theorem refused_scanRound : Refused s.lifecycle.refusal (scanRound : Action B R W (Bool × Index)) s :=
  (refused_moveOn (Lifecycle.startRound_of_not_isPrepared h)).bind _

theorem refused_gatherSolutions : Refused s.lifecycle.refusal (gatherSolutions : Action B R W Unit) s :=
  (refused_require (Lifecycle.requirePrepared_of_not_isPrepared h)).bind _

theorem refused_fillEnergies : Refused s.lifecycle.refusal (fillEnergies : Action B R W Unit) s :=
  (refused_require (Lifecycle.requirePrepared_of_not_isPrepared h)).bind _

omit [Scalar R] in
theorem outOfOrder_scanRound : OutOfOrder (scanRound : Action B R W (Bool × Index)) s := ⟨_, refused_scanRound h⟩

theorem outOfOrder_gatherSolutions : OutOfOrder (gatherSolutions : Action B R W Unit) s := ⟨_, refused_gatherSolutions h⟩

theorem outOfOrder_fillEnergies : OutOfOrder (fillEnergies : Action B R W Unit) s := ⟨_, refused_fillEnergies h⟩

end Unprepared

end BinaryQuadratic.Solver
