import BinaryQuadratic.Proofs.Backend.Ledger
import BinaryQuadratic.Proofs.Solver.Call

/-!
# What every call keeps

A property of solvers that the steps of a solver keep, however they end, is kept by every call (`Enduring.keeps`) and
holds after every run (`Enduring.run`). A property of the backend that its own steps keep is one of these, since a solver
has no other way to its backend (`enduring_backend`).
-/

namespace BinaryQuadratic.Solver

open Step

variable {B R W : Type} {inv : Solver B R W → Prop} {α : Type}

/-! ## Steps that leave the solver as it is, or move its lifecycle on -/

theorem keeps_require (allowed : Lifecycle → Except LifecycleError Unit) :
    Keeps inv (require allowed : Action B R W Unit) := fun s holds => by
  rw [post_require]
  cases allowed s.lifecycle <;> exact holds

theorem keeps_current : Keeps inv (current : Action B R W (Problem R)) := fun s holds => by
  rw [post_current]
  cases s.problem <;> exact holds

theorem keeps_moveOn {step : Lifecycle → Except LifecycleError Lifecycle}
    (h : ∀ s l, step s.lifecycle = .ok l → inv s → inv { s with lifecycle := l }) :
    Keeps inv (moveOn step : Action B R W Unit) := fun s holds => by
  rw [post_moveOn]
  cases moved : step s.lifecycle with
  | error error => exact holds
  | ok l => exact h s l moved holds

/-! ## Making results -/

section Results

variable [Scalar R] [Backend B R W]
  (results : ∀ (s : Solver B R W) minimum solutions energies, inv s →
    inv { s with minimum := minimum, solutions := solutions, energies := energies })
  (gainSolution : ∀ (s : Solver B R W) l, s.lifecycle.gainSolution = .ok l → inv s → inv { s with lifecycle := l })
  (gainEnergy : ∀ (s : Solver B R W) l, s.lifecycle.gainEnergy = .ok l → inv s → inv { s with lifecycle := l })

include results gainSolution in
/-- What new results and their availability leave true, making solutions keeps. -/
theorem keeps_gatherSolutions : Keeps inv (gatherSolutions : Action B R W Unit) := by
  refine (keeps_require _).bind fun _ => .get_bind fun s _ => ?_
  cases s.tileInUse with
  | none => exact .fail _
  | some cap =>
    exact keeps_current.bind fun _ => .get_bind fun _ _ =>
      Keeps.bind (.modify fun s holds => results s _ _ _ holds) fun _ => keeps_moveOn gainSolution

include results gainSolution gainEnergy in
theorem keeps_fillEnergies : Keeps inv (fillEnergies : Action B R W Unit) :=
  (keeps_require _).bind fun _ => .get_bind fun _ _ => .unless_bind (keeps_gatherSolutions results gainSolution) <|
    keeps_current.bind fun _ => Keeps.bind (.modify fun s holds => results s _ _ _ holds) fun _ =>
      keeps_moveOn gainEnergy

end Results

/-! ## From steps to calls and runs -/

section Enduring

variable [Scalar R] [Backend B R W]

/-- Every step that calls are made of keeps this property. -/
structure Enduring (inv : Solver B R W → Prop) : Prop where
  tileSize (s : Solver B R W) (size : Count) : inv s → inv { s with tileSize := size }
  setProblem (weights : Matrix R) (direction : Direction) :
    Keeps inv (setProblem weights direction : Action B R W Unit)
  prepare : Keeps inv (prepare : Action B R W Unit)
  scanRound : Keeps inv (scanRound : Action B R W (Bool × Index))
  gatherSolutions : Keeps inv (gatherSolutions : Action B R W Unit)
  fillEnergies : Keeps inv (fillEnergies : Action B R W Unit)
  release : Keeps inv (release : Action B R W Unit)

namespace Enduring

variable {s : Solver B R W} (h : Enduring inv)
include h

theorem scanRounds (k : Nat) : Keeps inv (scanRounds k : Action B R W Unit) := by
  induction k with
  | zero => exact .pure _
  | succ k ih => exact h.scanRound.bind fun _ => ih

theorem scanRest : Keeps inv (scanRest : Action B R W Unit) := by
  refine .get_bind fun s _ => ?_
  cases s.schedule with
  | none => exact .fail _
  | some schedule => exact h.scanRounds _

theorem complete : Keeps inv (complete : Action B R W Unit) :=
  (keeps_require _).bind fun _ => .get_bind fun _ _ => .unless_bind h.prepare <|
    h.scanRest.bind fun _ => .get_bind fun _ _ => .ite (.pure _) h.gatherSolutions

theorem readEnergies : Keeps inv (readEnergies : Action B R W (List R)) :=
  h.complete.bind fun _ => .get_bind fun _ _ => .unless_bind h.fillEnergies <| .get_bind fun _ _ => .pure _

/-- Every call keeps the property. -/
theorem keeps (call : Call R) : Keeps inv (perform call : Action B R W (Reply R)) := by
  cases call with
  | setProblem weights direction => exact (h.setProblem weights direction).bind fun _ => .pure _
  | prepare => exact h.prepare.bind fun _ => .pure _
  | scanRound => exact h.scanRound.bind fun _ => .pure _
  | gatherSolutions => exact h.gatherSolutions.bind fun _ => .pure _
  | fillEnergies => exact h.fillEnergies.bind fun _ => .pure _
  | search => exact Keeps.bind (h.prepare.bind fun _ => h.scanRest.bind fun _ => h.gatherSolutions) fun _ => .pure _
  | release => exact h.release.bind fun _ => .pure _
  | solutions => exact Keeps.bind (h.complete.bind fun _ => .get_bind fun _ _ => .pure _) fun _ => .pure _
  | energies => exact h.readEnergies.bind fun _ => .pure _
  | minimumEnergy =>
    exact Keeps.bind (h.complete.bind fun _ => keeps_current.bind fun _ => .get_bind fun _ _ => .pure _) fun _ => .pure _
  | _ => exact fun s holds => perform_quiet (fun size => h.tileSize s size holds) rfl

theorem answer (call : Call R) (holds : inv s) : inv (s.answer call).2 :=
  (answer_iff call fun _ s' => inv s').2 (h.keeps call s holds)

/-- The property holds after every run. -/
theorem run (calls : List (Call R)) (holds : inv s) : inv (s.run calls).2 := by
  induction calls generalizing s with
  | nil => exact holds
  | cons call calls ih => exact ih (h.answer call holds)

end Enduring

end Enduring

/-! ## Properties of the backend -/

section Backend

variable {P : B → Prop}

theorem keeps_onBackend {step : Step SolverError B α} (h : Keeps P step) :
    Keeps (fun s => P s.backend) (onBackend step : Action B R W α) := fun s holds =>
  post_onBackend.2 (h s.backend holds)

theorem keeps_onPool {step : Step SolverError (B × List W) α} (h : Keeps (fun t => P t.1) step) :
    Keeps (fun s => P s.backend) (onPool step : Action B R W α) := fun s holds =>
  post_onPool.2 (h (s.backend, s.pool) holds)

/-- The lifecycle is none of the backend's business. -/
theorem keeps_moveOn_backend (step : Lifecycle → Except LifecycleError Lifecycle) :
    Keeps (fun s => P s.backend) (moveOn step : Action B R W Unit) := keeps_moveOn fun _ _ _ holds => holds

variable [Backend B R W] (h : Backend.Keeps P)
include h

theorem keeps_releaseWorkers : Keeps (fun s => P s.backend) (releaseWorkers : Action B R W Unit) :=
  .get_bind fun s _ => Keeps.bind (.modify fun _ holds => holds) fun _ =>
    (keeps_onBackend (h.discardAll s.pool)).bind fun _ => .modify fun _ holds => holds

theorem keeps_fillPool (weights : Matrix R) (tileSize : UInt64) :
    Keeps (fun s => P s.backend) (fillPool weights tileSize : Action B R W Unit) :=
  .get_bind fun _ _ => .ite
    ((keeps_releaseWorkers h).bind fun _ => (keeps_onBackend (h.createPool weights tileSize _)).bind fun _ =>
      .modify fun _ holds => holds)
    (.pure _)

variable [Scalar R]

/-- What the backend's steps keep, the steps of a solver keep. -/
theorem enduring_backend : Enduring fun s : Solver B R W => P s.backend := by
  refine ⟨fun _ _ holds => holds, fun weights direction => ?_, ?_, ?_,
    keeps_gatherSolutions (fun _ _ _ _ holds => holds) fun _ _ _ holds => holds,
    keeps_fillEnergies (fun _ _ _ _ holds => holds) (fun _ _ _ holds => holds) fun _ _ _ holds => holds, ?_⟩
  · -- a new problem
    exact (Keeps.ofExcept _ _).bind fun _ => (keeps_releaseWorkers h).bind fun _ =>
      Keeps.bind (.modify fun _ holds => holds) fun _ => .modify fun _ holds => holds
  · -- preparing
    exact (keeps_require _).bind fun _ => keeps_current.bind fun _ => Keeps.bind (.modify fun _ holds => holds) fun _ =>
      Keeps.bind (.modify fun _ holds => holds) fun _ => .get_bind fun _ _ =>
        (keeps_fillPool h _ _).bind fun _ => Keeps.bind (.modify fun _ holds => holds) fun _ => keeps_moveOn_backend _
  · -- a round
    refine (keeps_moveOn_backend _).bind fun _ => .get_bind fun s _ => ?_
    cases s.schedule with
    | none => exact .fail _
    | some schedule =>
      exact (keeps_onPool (h.scanRound _)).bind fun _ => Keeps.bind (.modify fun _ holds => holds) fun _ => .pure _
  · -- giving up the workers
    exact (keeps_releaseWorkers h).bind fun _ => Keeps.bind (.modify fun _ holds => holds) fun _ =>
      .modify fun _ holds => holds

end Backend

end BinaryQuadratic.Solver
