import BinaryQuadratic.Lifecycle

/-!
# Lifecycles as flags

Where a search stands can also be kept as four flags, for its problem, its preparation, its solutions and its energies.
Steps then test and set single flags, and nothing keeps a flag from being set without those that it depends on. A
lifecycle shows its flags (`Lifecycle.flags`), and a step does to them what it does to the lifecycle (`take_flags`), so
that after any steps the flags are those of a lifecycle (`run_flags`). The flags that can be reached are exactly those
that one lifecycle shows: solutions and energies only of a search that is prepared, and that only with a problem
(`reached_iff`).
-/

namespace BinaryQuadratic

/-! ## Steps as data -/

/-- A step of a lifecycle. -/
inductive Transition where
  | assign
  | prepare
  | startRound
  | gainSolution
  | gainEnergy
  | invalidate
  deriving DecidableEq

/-- Takes steps, in order. One that is refused changes nothing. -/
def Transition.run {σ : Type} (take : Transition → σ → Except LifecycleError σ) (s : σ) : List Transition → σ
  | [] => s
  | t :: ts =>
    match take t s with
    | .ok s' => run take s' ts
    | .error _ => run take s ts

/-- Takes a step, or refuses it. -/
def Lifecycle.take : Transition → Lifecycle → Except LifecycleError Lifecycle
  | .assign, l => .ok l.assign
  | .prepare, l => l.prepare
  | .startRound, l => l.startRound
  | .gainSolution, l => l.gainSolution
  | .gainEnergy, l => l.gainEnergy
  | .invalidate, l => .ok l.invalidate

/-! ## Flags -/

/-- Where a search stands, told by four flags. -/
structure Flags where
  problem : Bool
  prepared : Bool
  solution : Bool
  energy : Bool
  deriving DecidableEq

namespace Flags

/-- No flag is set. -/
def unset : Flags := ⟨false, false, false, false⟩

/-- The flags without those of the results. -/
def clearResults (f : Flags) : Flags := { f with solution := false, energy := false }

/-- Name of the phase. -/
def phase (f : Flags) : String :=
  if f.prepared then "prepared" else if f.problem then "problem set" else "unset"

/-- Refuses without a problem. -/
def requireProblem (f : Flags) : Except LifecycleError Unit :=
  if f.problem then .ok () else .error .noProblem

/-- Refuses unless prepared. -/
def requirePrepared (f : Flags) : Except LifecycleError Unit := do
  f.requireProblem
  if f.prepared then .ok () else .error .notPrepared

/-- Takes a step, or refuses it. -/
def take : Transition → Flags → Except LifecycleError Flags
  | .assign, _ => return { unset with problem := true }
  | .prepare, f => do
    f.requireProblem
    return { f with prepared := true }.clearResults
  | .startRound, f => do
    f.requirePrepared
    return f.clearResults
  | .gainSolution, f => do
    f.requirePrepared
    return { f with solution := true }
  | .gainEnergy, f => do
    f.requirePrepared
    return { f with energy := true }
  | .invalidate, f => return { f with prepared := false }.clearResults

end Flags

/-! ## The flags of a lifecycle -/

namespace Lifecycle

/-- What a lifecycle shows. -/
def flags (l : Lifecycle) : Flags := ⟨l.hasProblem, l.isPrepared, l.hasSolution, l.hasEnergy⟩

theorem flags_injective {l l' : Lifecycle} (h : l.flags = l'.flags) : l = l' := by
  cases l <;> cases l' <;> simp_all [flags, hasProblem, isPrepared, hasSolution, hasEnergy]

theorem phase_flags (l : Lifecycle) : l.flags.phase = l.phase := by cases l <;> rfl

theorem requireProblem_flags (l : Lifecycle) : l.flags.requireProblem = l.requireProblem := by cases l <;> rfl

theorem requirePrepared_flags (l : Lifecycle) : l.flags.requirePrepared = l.requirePrepared := by cases l <;> rfl

/-- A step does to the flags what it does to the lifecycle, and is refused for the same reason. -/
theorem take_flags (t : Transition) (l : Lifecycle) : Flags.take t l.flags = (take t l).map flags := by
  cases t with
  | assign => rfl
  | prepare => cases l <;> rfl
  | startRound => cases l <;> rfl
  | gainSolution => cases l <;> rfl
  | gainEnergy => cases l <;> rfl
  | invalidate => cases l <;> rfl

/-- After any steps the flags are those of the lifecycle after these steps. -/
theorem run_flags (l : Lifecycle) (ts : List Transition) :
    Transition.run Flags.take l.flags ts = (Transition.run take l ts).flags := by
  induction ts generalizing l with
  | nil => rfl
  | cons t ts ih =>
    rw [Transition.run, Transition.run, take_flags]
    cases take t l with
    | ok l' => exact ih l'
    | error _ => exact ih l

/-- No lifecycle is there in vain: some steps lead to it. -/
theorem exists_run_eq (l : Lifecycle) : ∃ ts, Transition.run take unset ts = l := by
  cases l with
  | unset => exact ⟨[], rfl⟩
  | assigned => exact ⟨[.assign], rfl⟩
  | prepared solution energy =>
    -- results are made in either order, or not at all
    refine ⟨[.assign, .prepare] ++ (if solution then [.gainSolution] else []) ++
      (if energy then [.gainEnergy] else []), ?_⟩
    cases solution <;> cases energy <;> rfl

/-- Flags that lifecycles show are set with those that they depend on, and all such flags are shown. -/
theorem exists_flags_eq_iff (f : Flags) :
    (∃ l : Lifecycle, l.flags = f) ↔ (f.prepared = true → f.problem = true) ∧
      (f.solution = true → f.prepared = true) ∧ (f.energy = true → f.prepared = true) := by
  constructor
  · rintro ⟨l, rfl⟩
    cases l <;> simp [flags, hasProblem, isPrepared, hasSolution, hasEnergy]
  · obtain ⟨problem, prepared, solution, energy⟩ := f
    rintro ⟨posed, solved, valued⟩
    cases prepared with
    | true => exact ⟨.prepared solution energy, by rw [show problem = true from posed rfl]; rfl⟩
    | false =>
      obtain rfl : solution = false := by simpa using solved
      obtain rfl : energy = false := by simpa using valued
      cases problem with
      | true => exact ⟨.assigned, rfl⟩
      | false => exact ⟨.unset, rfl⟩

end Lifecycle

/-- The flags that steps lead to from the first ones are those of a lifecycle, and these are the flags that are set with
all that they depend on. -/
theorem Flags.reached_iff (f : Flags) :
    (∃ ts, Transition.run take unset ts = f) ↔ (f.prepared = true → f.problem = true) ∧
      (f.solution = true → f.prepared = true) ∧ (f.energy = true → f.prepared = true) := by
  have shown (ts : List Transition) : Transition.run take unset ts = (Transition.run Lifecycle.take .unset ts).flags :=
    Lifecycle.unset.run_flags ts
  rw [← Lifecycle.exists_flags_eq_iff]
  constructor
  · rintro ⟨ts, rfl⟩
    exact ⟨_, (shown ts).symm⟩
  · rintro ⟨l, rfl⟩
    obtain ⟨ts, rfl⟩ := l.exists_run_eq
    exact ⟨ts, shown ts⟩

end BinaryQuadratic
