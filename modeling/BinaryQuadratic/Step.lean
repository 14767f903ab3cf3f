/-!
# Steps that can fail or crash

A step works on a state and may end early in two ways. It can fail with an error, which is an answer like any other; or
it can crash, which is no answer at all: an entry was read where there is none, a list was longer than memory can hold,
or a driver broke off. Whatever the step had changed before it ended stays changed.
-/

namespace BinaryQuadratic

/-- How a step can end early. -/
inductive Halt (ε : Type) where
  | error (cause : ε)
  | crash
  deriving DecidableEq

/-- The same ending, with its error read as another kind of error. -/
def Halt.map {ε δ : Type} (f : ε → δ) : Halt ε → Halt δ
  | .error cause => .error (f cause)
  | .crash => .crash

/-- A step on states `σ` with errors `ε` and result `α`. -/
abbrev Step (ε σ α : Type) : Type := EStateM (Halt ε) σ α

namespace Step

variable {ε δ σ τ α : Type}

/-- Ends with an error. -/
def fail (cause : ε) : Step ε σ α := throw (.error cause)

/-- Ends with a crash. -/
def crash : Step ε σ α := throw .crash

/-- A result that may be missing: without it the step crashes. -/
def ofOption : Option α → Step ε σ α
  | some a => pure a
  | none => crash

/-- A result or an error. -/
def ofExcept (f : δ → ε) : Except δ α → Step ε σ α
  | .ok a => pure a
  | .error cause => fail (f cause)

/-- The same step, with its errors read as another kind of error. -/
def mapError (f : δ → ε) (step : Step δ σ α) : Step ε σ α := EStateM.adaptExcept (Halt.map f) step

/-- The step, followed by `cleanup` if it fails. The error remains, unless the cleanup ends early itself. -/
def orCleanup (step : Step ε σ α) (cleanup : Step ε σ Unit) : Step ε σ α := fun s =>
  match step s with
  | .error (.error cause) s =>
    match cleanup s with
    | .ok _ s => .error (.error cause) s
    | .error halt s => .error halt s
  | result => result

/-- The step with its errors ignored. -/
def ignoreError (step : Step ε σ Unit) : Step ε σ Unit := fun s =>
  match step s with
  | .error (.error _) s => .ok () s
  | result => result

/-- The step on the first part of a pair of states. -/
def onFirst (step : Step ε σ α) : Step ε (σ × τ) α := fun s =>
  match step s.1 with
  | .ok a t => .ok a (t, s.2)
  | .error halt t => .error halt (t, s.2)

end Step

end BinaryQuadratic
