import BinaryQuadratic.Proofs.Schedule
import BinaryQuadratic.Proofs.Solver.Keeps
import BinaryQuadratic.Proofs.Solver.Invariant

/-!
# Rounds in a loop

A solver counts the rounds that are left and runs as many (`scanRest`). A loop does the same without counting, whatever
the backend does: it asks before each round whether every index was handed out (`repeats_roundUnlessComplete_iff`), or
goes on for as long as the rounds themselves tell that indices are left (`repeats_roundIncomplete_iff`). The first form
is for a solver that may have nothing left to scan, as one that is read again, the second for one that was just prepared.
Both need a schedule, and a prepared solver always has one (`paced_run`).
-/

namespace BinaryQuadratic

/-! ## Repeating a step -/

namespace Step

variable {ε σ : Type} {step : Step ε σ Bool} {s s' : σ} {result result' : EStateM.Result (Halt ε) σ Unit}

/-- Repeating a step for as long as it tells to go on ends like this. -/
inductive Repeats (step : Step ε σ Bool) : σ → EStateM.Result (Halt ε) σ Unit → Prop where
  | last {s s' : σ} : step s = .ok false s' → Repeats step s (.ok () s')
  | more {s s' : σ} {result : EStateM.Result (Halt ε) σ Unit} :
    step s = .ok true s' → Repeats step s' result → Repeats step s result
  | halt {s s' : σ} {ending : Halt ε} : step s = .error ending s' → Repeats step s (.error ending s')

/-- There is one ending at most. -/
theorem Repeats.unique (h : Repeats step s result) (h' : Repeats step s result') : result = result' := by
  induction h with
  | last done =>
    cases h' with
    | last done' => cases done.symm.trans done'; rfl
    | more done' _ => cases done.symm.trans done'
    | halt halted' => cases done.symm.trans halted'
  | more done _ ih =>
    cases h' with
    | last done' => cases done.symm.trans done'
    | more done' rest' =>
      cases done.symm.trans done'
      exact ih rest'
    | halt halted' => cases done.symm.trans halted'
  | halt halted =>
    cases h' with
    | last done' => cases halted.symm.trans done'
    | more done' _ => cases halted.symm.trans done'
    | halt halted' => cases halted.symm.trans halted'; rfl

/-- An ending that was found is the only one. -/
theorem Repeats.iff (h : Repeats step s result) : Repeats step s result' ↔ result = result' :=
  ⟨h.unique, fun same => same ▸ h⟩

end Step

namespace Solver

open Step

/-! ## Schedules of prepared solvers -/

section Pace

variable {B R W : Type}

/-- A solver is prepared exactly while it has a schedule. -/
def Paced (s : Solver B R W) : Prop := s.lifecycle.isPrepared = s.schedule.isSome

theorem Paced.exists_schedule {s : Solver B R W} (h : s.Paced) (prepared : s.lifecycle.isPrepared = true) :
    ∃ schedule, s.schedule = some schedule :=
  Option.isSome_iff_exists.1 (h ▸ prepared)

theorem Paced.of_eq {s s' : Solver B R W} (h : s.Paced) (lifecycle : s'.lifecycle.isPrepared = s.lifecycle.isPrepared)
    (schedule : s'.schedule = s.schedule) : s'.Paced := by
  rw [Paced, lifecycle, schedule]
  exact h

theorem Paced.of_none {s : Solver B R W} (unprepared : s.lifecycle.isPrepared = false) (none : s.schedule = none) :
    s.Paced := by
  rw [Paced, unprepared, none]
  rfl

theorem Paced.of_some {s : Solver B R W} {schedule : Schedule} (prepared : s.lifecycle = .prepared false false)
    (some : s.schedule = some schedule) : s.Paced := by
  rw [Paced, prepared, some]
  rfl

variable [Backend B R W]

/-- Giving up the workers ends without a schedule, or early and with the one there was. -/
theorem post_releaseWorkers_schedule (s : Solver B R W) :
    Post (releaseWorkers : Action B R W Unit) s (fun _ s' => s'.lifecycle = s.lifecycle ∧ s'.schedule = none)
      fun _ s' => s'.lifecycle = s.lifecycle ∧ s'.schedule = s.schedule := by
  simp only [releaseWorkers, post_bind, post_get, post_modify, post_onBackend]
  unfold Post
  split <;> exact ⟨trivial, trivial⟩

/-- Making a pool leaves lifecycle and schedule alone when there is no schedule. -/
theorem post_fillPool_schedule {s : Solver B R W} (unscheduled : s.schedule = none) (weights : Matrix R)
    (tileSize : UInt64) :
    Post (fillPool weights tileSize : Action B R W Unit) s
      (fun _ s' => s'.lifecycle = s.lifecycle ∧ s'.schedule = none)
      fun _ s' => s'.lifecycle = s.lifecycle ∧ s'.schedule = none := by
  rw [fillPool, post_bind, post_get]
  split
  · rw [post_bind]
    refine (post_releaseWorkers_schedule s).mono ?_ ?_
    · rintro _ s' ⟨lifecycle, none⟩
      rw [post_bind, post_onBackend]
      unfold Post
      split <;> exact ⟨lifecycle, none⟩
    · rintro _ s' ⟨lifecycle, same⟩
      exact ⟨lifecycle, same.trans unscheduled⟩
  · exact ⟨rfl, unscheduled⟩

/-- A round that succeeds moves the cursor on and tells where it is then, whatever the workers did. One that fails leaves
the cursor. -/
theorem post_scanRound_schedule (s : Solver B R W) :
    Post (scanRound : Action B R W (Bool × Index)) s
      (fun reply s' => ∃ schedule, s.schedule = some schedule ∧ s'.lifecycle = .prepared false false ∧
        s'.schedule = some schedule.advance ∧ reply = (schedule.advance.isComplete, schedule.advance.cursor))
      fun _ s' => s'.lifecycle.isPrepared = s.lifecycle.isPrepared ∧ s'.schedule = s.schedule := by
  rw [scanRound, post_bind, post_moveOn]
  cases prepared : s.lifecycle.isPrepared with
  | false =>
    rw [Lifecycle.startRound_of_not_isPrepared prepared]
    exact ⟨rfl, rfl⟩
  | true =>
    rw [Lifecycle.startRound_of_isPrepared prepared]
    simp only [post_bind, post_get]
    cases s.schedule with
    | none => exact ⟨rfl, rfl⟩
    | some schedule =>
      simp only [post_onPool, post_bind, post_modify, post_pure]
      unfold Post
      split
      · exact ⟨schedule, rfl, trivial, rfl, rfl⟩
      · exact ⟨rfl, trivial⟩

variable [Scalar R]

/-- Preparing puts the first schedule in place, for any backend. When it ends early it was refused, or it leaves no
schedule. -/
theorem post_prepare_schedule (s : Solver B R W) :
    Post (prepare : Action B R W Unit) s
      (fun _ s' => s'.lifecycle = .prepared false false ∧ ∃ p, s.problem = some p ∧
        s'.schedule = some (Schedule.start p.size s.tileSize (Backend.workers s.backend)))
      fun _ s' => s' = s ∨ s'.lifecycle.isPrepared = false ∧ s'.schedule = none := by
  rw [prepare, post_bind, post_require]
  cases posed : s.lifecycle.hasProblem with
  | false =>
    rw [Lifecycle.requireProblem_of_not_hasProblem posed]
    exact Or.inl rfl
  | true =>
    rw [Lifecycle.requireProblem_of_hasProblem posed]
    cases problem : s.problem with
    | none =>
      rw [post_bind, post_current, problem]
      exact Or.inl rfl
    | some p =>
      simp only [post_bind, post_current, problem, post_modify, post_clearResults, post_get,
        Lifecycle.invalidate_of_hasProblem posed]
      refine (post_fillPool_schedule rfl _ _).mono ?_ ?_
      · rintro _ s' ⟨lifecycle, -⟩
        rw [post_moveOn, show s'.lifecycle = .assigned from lifecycle]
        exact ⟨rfl, p, rfl, rfl⟩
      · rintro _ s' ⟨lifecycle, none⟩
        exact Or.inr ⟨by rw [lifecycle]; rfl, none⟩

/-- Whatever the backend does, every step keeps the schedule with the preparation. -/
theorem enduring_paced : Enduring (Paced (B := B) (R := R) (W := W)) := by
  have gainSolution (s : Solver B R W) (l : Lifecycle) (made : s.lifecycle.gainSolution = .ok l) (paced : s.Paced) :
      Paced { s with lifecycle := l } := paced.of_eq (Lifecycle.isPrepared_of_gainSolution made) rfl
  have gainEnergy (s : Solver B R W) (l : Lifecycle) (made : s.lifecycle.gainEnergy = .ok l) (paced : s.Paced) :
      Paced { s with lifecycle := l } := paced.of_eq (Lifecycle.isPrepared_of_gainEnergy made) rfl
  refine ⟨fun _ _ paced => paced, fun weights direction => ?_, fun s paced => ?_, fun s paced => ?_,
    keeps_gatherSolutions (fun _ _ _ _ paced => paced) gainSolution,
    keeps_fillEnergies (fun _ _ _ _ paced => paced) gainSolution gainEnergy, fun s paced => ?_⟩
  · -- a new problem: between the steps the schedule may be gone first, but there nothing ends early
    refine (Keeps.ofExcept _ _).bind fun problem s paced => ?_
    rw [post_bind]
    refine (post_releaseWorkers_schedule s).mono ?_ fun _ s' same => paced.of_eq (same.1 ▸ rfl) same.2
    rintro _ s' ⟨-, none⟩
    simp only [post_bind, post_clearResults, post_modify]
    exact Paced.of_none rfl none
  · -- preparing
    refine (post_prepare_schedule s).mono ?_ ?_
    · rintro _ s' ⟨prepared, p, -, scheduled⟩
      exact Paced.of_some prepared scheduled
    · rintro _ s' (rfl | ⟨unprepared, none⟩)
      · exact paced
      · exact Paced.of_none unprepared none
  · -- a round
    refine (post_scanRound_schedule s).mono ?_ fun _ s' same => paced.of_eq same.1 same.2
    rintro _ s' ⟨schedule, -, prepared, scheduled, -⟩
    exact Paced.of_some prepared scheduled
  · -- giving up the workers
    rw [release, post_bind]
    refine (post_releaseWorkers_schedule s).mono ?_ fun _ s' same => paced.of_eq (same.1 ▸ rfl) same.2
    rintro _ s' ⟨-, none⟩
    simp only [post_bind, post_clearResults, post_modify]
    exact Paced.of_none (Lifecycle.isPrepared_invalidate _) none

/-- A solver that calls were made on is prepared exactly while it has a schedule. -/
theorem paced_run (backend : B) (calls : List (Call R)) : ((fresh backend : Solver B R W).run calls).2.Paced :=
  enduring_paced.run calls rfl

end Pace

/-! ## Rounds that are left -/

section Rest

variable {B R W : Type} [Backend B R W] {s s' : Solver B R W} {schedule : Schedule}
  {result : EStateM.Result (Halt SolverError) (Solver B R W) Unit}

/-- A round, unless every index was handed out. Tells whether there was one. -/
def roundUnlessComplete : Action B R W Bool := do
  if (← get).isComplete then return false
  let _ ← scanRound
  return true

/-- A round. Tells whether indices are left. -/
def roundIncomplete : Action B R W Bool := do
  let (complete, _) ← scanRound
  return !complete

theorem scanRest_eq (scheduled : s.schedule = some schedule) :
    (scanRest : Action B R W Unit) s = scanRounds schedule.roundsLeft s := by
  cases s
  cases scheduled
  rfl

theorem roundUnlessComplete_of_isComplete (complete : s.isComplete = true) :
    (roundUnlessComplete : Action B R W Bool) s = .ok false s := by
  rw [roundUnlessComplete, bind_apply]
  show (if s.isComplete = true then _ else _ : Action B R W Bool) s = _
  rw [if_pos complete]
  rfl

theorem roundUnlessComplete_of_not_isComplete (incomplete : s.isComplete = false) :
    (roundUnlessComplete : Action B R W Bool) s = (scanRound >>= fun _ => return true : Action B R W Bool) s := by
  rw [roundUnlessComplete, bind_apply]
  show (if s.isComplete = true then _ else _ : Action B R W Bool) s = _
  rw [if_neg (Bool.eq_false_iff.1 incomplete)]

/-- Asking before each round ends as counting the rounds does. -/
theorem repeats_roundUnlessComplete (prepared : s.lifecycle.isPrepared = true) (scheduled : s.schedule = some schedule) :
    Repeats roundUnlessComplete s ((scanRest : Action B R W Unit) s) := by
  rw [scanRest_eq scheduled]
  generalize left : schedule.roundsLeft = k
  induction k generalizing s schedule with
  | zero =>
    have complete := schedule.roundsLeft_eq_zero_iff.1 left
    exact .last (roundUnlessComplete_of_isComplete ((isComplete_of_isPrepared prepared scheduled).trans complete))
  | succ k ih =>
    have incomplete : ¬ schedule.isComplete = true := mt schedule.roundsLeft_eq_zero_iff.2 (by omega)
    have next := roundUnlessComplete_of_not_isComplete
      ((isComplete_of_isPrepared prepared scheduled).trans (Bool.eq_false_iff.2 incomplete))
    have after := post_scanRound_schedule s
    rw [bind_apply] at next
    rw [scanRounds, bind_apply]
    cases round : (scanRound : Action B R W (Bool × Index)) s with
    | error ending s' =>
      rw [round] at next
      exact .halt next
    | ok reply s' =>
      rw [round] at next
      obtain ⟨_, same, prepared', scheduled', -⟩ := after.of_ok round
      obtain rfl := Option.some.inj (scheduled.symm.trans same)
      refine .more next (ih (by rw [prepared']; rfl) scheduled' ?_)
      exact Nat.succ.inj ((Schedule.roundsLeft_advance incomplete).symm.trans left)

theorem roundIncomplete_apply (s : Solver B R W) : (roundIncomplete : Action B R W Bool) s =
    match (scanRound : Action B R W (Bool × Index)) s with
    | .ok told s' => .ok (!told.1) s'
    | .error ending s' => .error ending s' := by
  rw [roundIncomplete, bind_apply]
  cases (scanRound : Action B R W (Bool × Index)) s <;> rfl

/-- So does going on for as long as rounds tell that indices are left, if some are left at first. -/
theorem repeats_roundIncomplete (scheduled : s.schedule = some schedule) (incomplete : ¬ schedule.isComplete = true) :
    Repeats roundIncomplete s ((scanRest : Action B R W Unit) s) := by
  rw [scanRest_eq scheduled]
  generalize left : schedule.roundsLeft = k
  induction k generalizing s schedule with
  | zero => exact absurd (schedule.roundsLeft_eq_zero_iff.1 left) incomplete
  | succ k ih =>
    have fewer : schedule.advance.roundsLeft = k :=
      Nat.succ.inj ((Schedule.roundsLeft_advance incomplete).symm.trans left)
    have next := roundIncomplete_apply s
    have after := post_scanRound_schedule s
    rw [scanRounds, bind_apply]
    cases round : (scanRound : Action B R W (Bool × Index)) s with
    | error ending s' =>
      rw [round] at next
      exact .halt next
    | ok told s' =>
      rw [round] at next
      obtain ⟨_, same, -, scheduled', rfl⟩ := after.of_ok round
      obtain rfl := Option.some.inj (scheduled.symm.trans same)
      by_cases complete : schedule.advance.isComplete = true
      · obtain rfl : k = 0 := fewer.symm.trans (schedule.advance.roundsLeft_eq_zero_iff.2 complete)
        rw [complete] at next
        exact .last next
      · rw [Bool.eq_false_iff.2 complete] at next
        exact .more next (ih scheduled' complete fewer)

/-! Each has no other ending. -/

/-- **Asking before each round.** Of a scan that is under way, a loop that asks before each round whether every index was
handed out scans what is left. They end alike, also where a round fails or crashes. -/
theorem repeats_roundUnlessComplete_iff (paced : s.Paced) (prepared : s.lifecycle.isPrepared = true) :
    Repeats roundUnlessComplete s result ↔ (scanRest : Action B R W Unit) s = result := by
  obtain ⟨schedule, scheduled⟩ := paced.exists_schedule prepared
  exact (repeats_roundUnlessComplete prepared scheduled).iff

/-- **Going on as rounds tell.** Of a solver that was just prepared, a loop that goes on for as long as its rounds tell
that indices are left scans them all. They end alike. -/
theorem repeats_roundIncomplete_iff [Scalar R] (done : (prepare : Action B R W Unit) s = .ok () s') :
    Repeats roundIncomplete s' result ↔ (scanRest : Action B R W Unit) s' = result := by
  obtain ⟨-, p, -, scheduled⟩ := (post_prepare_schedule s).of_ok done
  exact (repeats_roundIncomplete scheduled (Schedule.not_isComplete_start _ _ _)).iff

end Rest

end Solver

end BinaryQuadratic
