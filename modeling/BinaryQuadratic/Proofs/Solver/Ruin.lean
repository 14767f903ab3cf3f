import BinaryQuadratic.Proofs.Backend.Resilient
import BinaryQuadratic.Proofs.Solver.Rounds

/-!
# Solvers that lost their workers without noticing

Without workers on a lost backend, nothing is ever computed again: no worker can be made, and a round moves the cursor
on and does nothing else (`enduring_deserted`). Every call, however it ends, leaves the solver in this state.
-/

namespace BinaryQuadratic.Solver

open Step Resilient

variable {B R W : Type} [Scalar R] [Backend B R W] {value : Problem R → Index → R} [Resilient B value]
  {s : Solver (Journal B) R (Journaled W)}

/-- The backend was lost, and there are no workers, whether the solver is prepared or not. -/
structure Ruined (s : Solver (Journal B) R (Journaled W)) : Prop where
  empty : s.pool = []
  lost : Lost s.backend.backend
  isPrepared : s.lifecycle.isPrepared = s.schedule.isSome

/-- The backend was lost, and there are no workers. -/
def Deserted (s : Solver (Journal B) R (Journaled W)) : Prop := s.pool = [] ∧ Lost s.backend.backend

omit [Scalar R] in
/-- There is nobody to be given up. -/
theorem post_releaseWorkers (empty : s.pool = []) {ok : Unit → Solver (Journal B) R (Journaled W) → Prop}
    {halt : Halt SolverError → Solver (Journal B) R (Journaled W) → Prop} :
    Post (releaseWorkers : Action (Journal B) R (Journaled W) Unit) s ok halt ↔
      ok () { s with pool := [], poolTile := 0, schedule := none } := by
  simp only [releaseWorkers, post_bind, post_get, post_modify, post_onBackend, empty]
  rfl

theorem keeps_releaseWorkers_deserted :
    Keeps Deserted (releaseWorkers : Action (Journal B) R (Journaled W) Unit) := fun _ deserted =>
  (post_releaseWorkers deserted.1).2 ⟨rfl, deserted.2⟩

/-- Nor are workers made on a lost backend. -/
theorem keeps_fillPool_deserted (weights : Matrix R) (tileSize : UInt64) :
    Keeps Deserted (fillPool weights tileSize : Action (Journal B) R (Journaled W) Unit) := by
  refine .get_bind fun s deserted => .ite (keeps_releaseWorkers_deserted.bind fun _ t deserted => ?_) (.pure _)
  rw [post_bind, post_onBackend]
  refine (createPool_of_lost weights tileSize _ deserted.2).mono (fun _ _ never => never.elim) ?_
  rintro _ _ rfl
  exact deserted

/-- A round without workers moves the cursor on and does nothing else. -/
theorem keeps_scanRound_deserted (schedule : Schedule) :
    Keeps Deserted (onPool (Backend.scanRound schedule.round) : Action (Journal B) R (Journaled W) Unit) :=
  fun s deserted => by
    rw [post_onPool, deserted.1]
    cases schedule.round <;> exact ⟨rfl, deserted.2⟩

/-- Every step leaves a lost backend without workers. -/
theorem enduring_deserted : Enduring (Deserted (B := B) (R := R) (W := W)) := by
  have lifecycle (step : Lifecycle → Except LifecycleError Lifecycle) :
      Keeps Deserted (moveOn step : Action (Journal B) R (Journaled W) Unit) :=
    keeps_moveOn fun _ _ _ deserted => deserted
  refine ⟨fun _ _ deserted => deserted, fun weights direction => ?_, ?_, ?_,
    keeps_gatherSolutions (fun _ _ _ _ deserted => deserted) fun _ _ _ deserted => deserted,
    keeps_fillEnergies (fun _ _ _ _ deserted => deserted) (fun _ _ _ deserted => deserted) fun _ _ _ deserted => deserted,
    ?_⟩
  · -- a new problem
    exact (Keeps.ofExcept _ _).bind fun _ => keeps_releaseWorkers_deserted.bind fun _ =>
      Keeps.bind (.modify fun _ deserted => deserted) fun _ => .modify fun _ deserted => deserted
  · -- preparing
    refine (keeps_require _).bind fun _ => keeps_current.bind fun _ =>
      Keeps.bind (.modify fun _ deserted => deserted) fun _ => Keeps.bind (.modify fun _ deserted => deserted) fun _ =>
        .get_bind fun _ _ => (keeps_fillPool_deserted _ _).bind fun _ =>
          Keeps.bind (.modify fun s deserted => ?_) fun _ => lifecycle _
    exact ⟨by rw [deserted.1]; rfl, deserted.2⟩
  · -- a round
    refine (lifecycle _).bind fun _ => .get_bind fun s _ => ?_
    cases s.schedule with
    | none => exact .fail _
    | some schedule =>
      exact (keeps_scanRound_deserted schedule).bind fun _ =>
        Keeps.bind (.modify fun _ deserted => deserted) fun _ => .pure _
  · -- giving up the workers
    exact keeps_releaseWorkers_deserted.bind fun _ => Keeps.bind (.modify fun _ deserted => deserted) fun _ =>
      .modify fun _ deserted => deserted

/-- Nothing brings the workers back. -/
theorem Ruined.run (h : s.Ruined) (calls : List (Call R)) : (s.run calls).2.Ruined where
  empty := (enduring_deserted.run calls ⟨h.empty, h.lost⟩).1
  lost := (enduring_deserted.run calls ⟨h.empty, h.lost⟩).2
  isPrepared := enduring_paced.run calls h.isPrepared

end BinaryQuadratic.Solver
