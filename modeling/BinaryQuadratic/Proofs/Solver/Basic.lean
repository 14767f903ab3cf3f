import BinaryQuadratic.Proofs.Step
import BinaryQuadratic.Solver.Scan

/-!
# The small steps of a solver

What holds after each of the steps that the larger ones are made of.
-/

namespace BinaryQuadratic.Solver

open Step

variable {B R W α : Type} {s : Solver B R W}
  {ok : α → Solver B R W → Prop} {halt : Halt SolverError → Solver B R W → Prop}

@[simp]
theorem post_outOfOrder {error : LifecycleError} :
    Post (outOfOrder error : Action B R W α) s ok halt ↔ halt (.error (.lifecycle error)) s := Iff.rfl

theorem post_require {allowed : Lifecycle → Except LifecycleError Unit} {ok : Unit → Solver B R W → Prop} :
    Post (require allowed : Action B R W Unit) s ok halt ↔
      match allowed s.lifecycle with
      | .ok _ => ok () s
      | .error error => halt (.error (.lifecycle error)) s := by
  rw [require, post_bind, post_get]
  cases allowed s.lifecycle <;> rfl

theorem post_moveOn {step : Lifecycle → Except LifecycleError Lifecycle} {ok : Unit → Solver B R W → Prop} :
    Post (moveOn step : Action B R W Unit) s ok halt ↔
      match step s.lifecycle with
      | .ok lifecycle => ok () { s with lifecycle := lifecycle }
      | .error error => halt (.error (.lifecycle error)) s := by
  rw [moveOn, post_bind, post_get]
  cases step s.lifecycle <;> rfl

theorem post_current {ok : Problem R → Solver B R W → Prop} :
    Post (current : Action B R W (Problem R)) s ok halt ↔
      match s.problem with
      | some problem => ok problem s
      | none => halt (.error (.lifecycle .noProblem)) s := by
  rw [current, post_bind, post_get]
  cases s.problem <;> rfl

theorem post_current_of {problem : Problem R} {ok : Problem R → Solver B R W → Prop}
    (posed : s.problem = some problem) :
    Post (current : Action B R W (Problem R)) s ok halt ↔ ok problem s := by
  rw [post_current, posed]

theorem post_onBackend {step : Step SolverError B α} :
    Post (onBackend step : Action B R W α) s ok halt ↔
      Post step s.backend (fun a b => ok a { s with backend := b }) fun ending b =>
        halt ending { s with backend := b } := by
  unfold Post onBackend
  cases step s.backend <;> rfl

theorem post_onPool {step : Step SolverError (B × List W) α} :
    Post (onPool step : Action B R W α) s ok halt ↔
      Post step (s.backend, s.pool) (fun a t => ok a { s with backend := t.1, pool := t.2 })
        fun ending t => halt ending { s with backend := t.1, pool := t.2 } := by
  unfold Post onPool
  cases step (s.backend, s.pool) <;> rfl

@[simp]
theorem post_clearResults [Scalar R] {ok : Unit → Solver B R W → Prop} :
    Post (clearResults : Action B R W Unit) s ok halt ↔
      ok () { s with minimum := Scalar.infinity, solutions := [], energies := [] } := Iff.rfl

end BinaryQuadratic.Solver
