import BinaryQuadratic.Proofs.Mirror
import BinaryQuadratic.Proofs.Solver.Keeps

/-!
# Scans and the tile size asked for

Of all steps of a solver only preparing one looks at the tile size that is asked for. A prepared solver needs no
preparation, so its scan is undisturbed by other sizes being asked for (`Solver.Undisturbed`): rounds, results and reads
are the same, leave that size as it is, and leave the solver prepared (`Solver.undisturbed_perform`). Calls that set
preferences change that size and nothing else (`Solver.exists_retiled_of_setsPreferences`).
-/

namespace BinaryQuadratic.Solver

open Step

variable {B R W α β : Type}

/-- The solver, asked for tiles of another size. -/
def retiled (size : Count) (s : Solver B R W) : Solver B R W := { s with tileSize := size }

/-- On prepared solvers the step does the same whatever tile size is asked for, and keeps the preparation. -/
structure Undisturbed (step : Action B R W α) : Prop where
  blind (s : Solver B R W) (size : Count) : s.lifecycle.isPrepared = true →
    step (s.retiled size) = outcomeMap (retiled size) id (step s)
  keeps : Keeps (fun s : Solver B R W => s.lifecycle.isPrepared = true) step

namespace Undisturbed

theorem pure (a : α) : Undisturbed (pure a : Action B R W α) := ⟨fun _ _ _ => rfl, .pure a⟩

theorem outOfOrder (error : LifecycleError) : Undisturbed (outOfOrder error : Action B R W α) :=
  ⟨fun _ _ _ => rfl, .fail _⟩

theorem modify {f : Solver B R W → Solver B R W} (same : ∀ size s, f (retiled size s) = retiled size (f s))
    (lifecycle : ∀ s, (f s).lifecycle = s.lifecycle) : Undisturbed (modify f : Action B R W PUnit) where
  blind s size _ := congrArg (EStateM.Result.ok PUnit.unit) (same size s)
  keeps := .modify fun s holds => by rwa [lifecycle s]

theorem bind {step : Action B R W α} {next : α → Action B R W β} (h : Undisturbed step)
    (h' : ∀ a, Undisturbed (next a)) : Undisturbed (step >>= next) where
  blind s size prepared := by
    have kept := h.keeps s prepared
    rw [bind_apply, bind_apply, h.blind s size prepared]
    cases done : step s with
    | ok a s' => exact (h' a).blind s' size (kept.of_ok done)
    | error ending s' => rfl
  keeps := h.keeps.bind fun a => (h' a).keeps

/-- What looks at the solver first is undisturbed if it does not look at the tile size asked for. -/
theorem get_bind {next : Solver B R W → Action B R W α} (same : ∀ size s, next (retiled size s) = next s)
    (h : ∀ s : Solver B R W, s.lifecycle.isPrepared = true → Undisturbed (next s)) : Undisturbed (get >>= next) where
  blind s size prepared := by
    show next (retiled size s) (retiled size s) = _
    rw [same size s]
    exact (h s prepared).blind s size prepared
  keeps := .get_bind fun s prepared => (h s prepared).keeps

theorem ite {P : Prop} [Decidable P] {step step' : Action B R W α} (h : Undisturbed step) (h' : Undisturbed step') :
    Undisturbed (if P then step else step') := by
  split
  · exact h
  · exact h'

/-- What is shown of the solver does not depend on the tile size asked for. -/
theorem shown {f : Solver B R W → α} (same : ∀ size s, f (retiled size s) = f s) :
    Undisturbed (get >>= fun s => Pure.pure (f s) : Action B R W α) :=
  .get_bind (fun size s => by rw [same size s]) fun _ _ => .pure _

end Undisturbed

/-! ## Steps -/

theorem undisturbed_require (allowed : Lifecycle → Except LifecycleError Unit) :
    Undisturbed (require allowed : Action B R W Unit) where
  blind s size _ := by
    show (ofExcept _ (allowed s.lifecycle) : Action B R W Unit) _ = outcomeMap _ _ ((ofExcept _ (allowed s.lifecycle)) s)
    cases allowed s.lifecycle <;> rfl
  keeps := keeps_require allowed

theorem undisturbed_moveOn {step : Lifecycle → Except LifecycleError Lifecycle}
    (gains : ∀ l l', step l = .ok l' → l'.isPrepared = true) : Undisturbed (moveOn step : Action B R W Unit) where
  blind s size _ := by
    unfold moveOn
    rw [bind_apply, bind_apply]
    show (ofExcept _ (step s.lifecycle) >>= _ : Action B R W Unit) _ =
      outcomeMap _ _ ((ofExcept _ (step s.lifecycle) >>= _ : Action B R W Unit) s)
    cases step s.lifecycle <;> rfl
  keeps := keeps_moveOn fun s l moved _ => gains s.lifecycle l moved

theorem undisturbed_startRound : Undisturbed (moveOn Lifecycle.startRound : Action B R W Unit) :=
  undisturbed_moveOn fun l l' moved => by cases l <;> cases moved; rfl

theorem undisturbed_gainSolution : Undisturbed (moveOn Lifecycle.gainSolution : Action B R W Unit) :=
  undisturbed_moveOn fun l l' moved => by cases l <;> cases moved; rfl

theorem undisturbed_gainEnergy : Undisturbed (moveOn Lifecycle.gainEnergy : Action B R W Unit) :=
  undisturbed_moveOn fun l l' moved => by cases l <;> cases moved; rfl

theorem undisturbed_current : Undisturbed (current : Action B R W (Problem R)) :=
  .get_bind (fun _ _ => rfl) fun s _ => by
    cases s.problem with
    | none => exact .outOfOrder _
    | some p => exact .pure p

theorem undisturbed_onPool (step : Step SolverError (B × List W) α) :
    Undisturbed (onPool step : Action B R W α) where
  blind s size _ := by
    unfold onPool
    rw [show ((retiled size s).backend, (retiled size s).pool) = (s.backend, s.pool) from rfl]
    cases step (s.backend, s.pool) <;> rfl
  keeps s prepared := post_onPool.2 (by
    unfold Post
    cases step (s.backend, s.pool) <;> exact prepared)

variable [Backend B R W]

theorem undisturbed_scanRound : Undisturbed (scanRound : Action B R W (Bool × Index)) := by
  refine undisturbed_startRound.bind fun _ => .get_bind (fun _ _ => rfl) fun s _ => ?_
  cases s.schedule with
  | none => exact .outOfOrder _
  | some schedule =>
    exact (undisturbed_onPool _).bind fun _ => Undisturbed.bind (.modify (fun _ _ => rfl) fun _ => rfl) fun _ => .pure _

theorem undisturbed_scanRounds (k : Nat) : Undisturbed (scanRounds k : Action B R W Unit) := by
  induction k with
  | zero => exact .pure _
  | succ k ih => exact undisturbed_scanRound.bind fun _ => ih

theorem undisturbed_scanRest : Undisturbed (scanRest : Action B R W Unit) := by
  refine .get_bind (fun _ _ => rfl) fun s _ => ?_
  cases s.schedule with
  | none => exact .outOfOrder _
  | some schedule => exact undisturbed_scanRounds _

variable [Scalar R]

theorem undisturbed_gatherSolutions : Undisturbed (gatherSolutions : Action B R W Unit) := by
  refine (undisturbed_require _).bind fun _ => .get_bind (fun _ _ => rfl) fun s _ => ?_
  cases s.tileInUse with
  | none => exact .outOfOrder _
  | some cap =>
    exact undisturbed_current.bind fun _ => .get_bind (fun _ _ => rfl) fun _ _ =>
      Undisturbed.bind (.modify (fun _ _ => rfl) fun _ => rfl) fun _ => undisturbed_gainSolution

theorem undisturbed_fillEnergies : Undisturbed (fillEnergies : Action B R W Unit) := by
  have fill : Undisturbed (current >>= fun problem : Problem R => do
      modify fun s : Solver B R W =>
        { s with energies := List.replicate (max s.solutions.length 1) (problem.external s.minimum) }
      moveOn Lifecycle.gainEnergy) :=
    undisturbed_current.bind fun _ =>
      Undisturbed.bind (.modify (fun _ _ => rfl) fun _ => rfl) fun _ => undisturbed_gainEnergy
  exact (undisturbed_require _).bind fun _ => .get_bind (fun _ _ => rfl) fun _ _ =>
    .ite fill (undisturbed_gatherSolutions.bind fun _ => fill)

/-! ## Reads -/

/-- A prepared solver is not prepared again for a full scan. -/
theorem undisturbed_complete : Undisturbed (complete : Action B R W Unit) := by
  have rest : Undisturbed (scanRest >>= fun _ => get >>= fun s : Solver B R W =>
      if s.lifecycle.hasSolution = true then Pure.pure () else gatherSolutions) :=
    undisturbed_scanRest.bind fun _ => .get_bind (fun _ _ => rfl) fun _ _ =>
      .ite (.pure _) undisturbed_gatherSolutions
  refine (undisturbed_require _).bind fun _ => .get_bind (fun _ _ => rfl) fun s prepared => ?_
  rw [if_pos prepared]
  exact rest

theorem undisturbed_readSolutions : Undisturbed (readSolutions : Action B R W (List Assignment)) :=
  undisturbed_complete.bind fun _ => .shown fun _ _ => rfl

theorem undisturbed_readEnergies : Undisturbed (readEnergies : Action B R W (List R)) := by
  have energies : Undisturbed (get >>= fun s => Pure.pure s.energies : Action B R W (List R)) := .shown fun _ _ => rfl
  exact undisturbed_complete.bind fun _ => .get_bind (fun _ _ => rfl) fun _ _ =>
    .ite energies (undisturbed_fillEnergies.bind fun _ => energies)

theorem undisturbed_readMinimum : Undisturbed (readMinimum : Action B R W R) :=
  undisturbed_complete.bind fun _ => undisturbed_current.bind fun _ => .shown fun _ _ => rfl

/-! ## Calls -/

/-- Calls that set preferences. -/
def Call.setsPreferences {R : Type} : Call R → Bool
  | .selectAlgorithm _ | .setPreference _ | .setPreferences _ | .setPreferenceText _ _ => true
  | _ => false

/-- Calls that show preferences. -/
def Call.showsPreferences {R : Type} : Call R → Bool
  | .preferences | .preference _ => true
  | _ => false

/-- Calls that take up a problem, prepare a solver whether or not it is prepared, or give the preparation up. -/
def Call.startsOver {R : Type} : Call R → Bool
  | .setProblem _ _ | .prepare | .search | .release => true
  | _ => false

/-- Calls that go on with a scan are undisturbed. -/
theorem undisturbed_perform {call : Call R} (goesOn : call.startsOver = false)
    (sets : call.setsPreferences = false) (shows : call.showsPreferences = false) :
    Undisturbed (perform call : Action B R W (Reply R)) := by
  cases call with
  | scanRound => exact undisturbed_scanRound.bind fun _ => .pure _
  | gatherSolutions => exact undisturbed_gatherSolutions.bind fun _ => .pure _
  | fillEnergies => exact undisturbed_fillEnergies.bind fun _ => .pure _
  | solutions => exact undisturbed_readSolutions.bind fun _ => .pure _
  | energies => exact undisturbed_readEnergies.bind fun _ => .pure _
  | minimumEnergy => exact undisturbed_readMinimum.bind fun _ => .pure _
  | problemSize => exact undisturbed_current.bind fun _ => .pure _
  | direction => exact undisturbed_current.bind fun _ => .pure _
  | algorithm => exact .pure _
  | backend => exact .get_bind (fun _ _ => rfl) fun _ _ => .shown fun _ _ => rfl
  | setProblem => cases goesOn
  | prepare => cases goesOn
  | search => cases goesOn
  | release => cases goesOn
  | preferences => cases shows
  | preference => cases shows
  | _ => cases sets

/-- They end alike whatever tile size is asked for. -/
theorem answer_retiled {s : Solver B R W} (prepared : s.lifecycle.isPrepared = true) {call : Call R}
    (goesOn : call.startsOver = false) (sets : call.setsPreferences = false) (shows : call.showsPreferences = false)
    (size : Count) : (s.retiled size).answer call = ((s.answer call).1, (s.answer call).2.retiled size) := by
  unfold answer
  rw [(undisturbed_perform goesOn sets shows).blind s size prepared]
  cases perform call s <;> rfl

/-- They keep the preparation. -/
theorem isPrepared_answer {s : Solver B R W} (prepared : s.lifecycle.isPrepared = true) {call : Call R}
    (goesOn : call.startsOver = false) (sets : call.setsPreferences = false) (shows : call.showsPreferences = false) :
    (s.answer call).2.lifecycle.isPrepared = true :=
  (answer_iff call fun _ s' => s'.lifecycle.isPrepared = true).2
    ((undisturbed_perform goesOn sets shows).keeps s prepared)

/-- Calls that set preferences change nothing but the tile size asked for, whether or not they succeed. -/
theorem exists_retiled_of_setsPreferences (s : Solver B R W) {call : Call R} (sets : call.setsPreferences = true) :
    ∃ size, (s.answer call).2 = s.retiled size := by
  have retiles (quiet : call.isQuiet = true) : ∃ size, (s.answer call).2 = s.retiled size :=
    (answer_iff call fun _ s' => ∃ size, s' = s.retiled size).2 (perform_quiet (fun size => ⟨size, rfl⟩) quiet)
  cases call with
  | selectAlgorithm requested => exact retiles rfl
  | setPreference preference => exact retiles rfl
  | setPreferences preferences => exact retiles rfl
  | setPreferenceText name value => exact retiles rfl
  | _ => cases sets

/-- Calls that show preferences change nothing. -/
theorem answer_of_showsPreferences (s : Solver B R W) {call : Call R} (shows : call.showsPreferences = true) :
    (s.answer call).2 = s := by
  cases call with
  | preferences => rfl
  | preference name => rfl
  | _ => cases shows

end BinaryQuadratic.Solver
