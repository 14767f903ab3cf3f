/-!
# Lifecycle of a search

A search has no problem, or a problem, or is prepared to scan one. Once it is prepared, its solutions and its energies
become available apart from each other, and both are lost when a round starts. A new problem, or the loss of what was
prepared, leaves neither. A step that comes out of order is refused and changes nothing; a missing problem is reported
before missing preparation. Four flags that are set and tested one by one tell the same (`take_flags`).
-/

namespace BinaryQuadratic

/-- Why a step is out of order. -/
inductive LifecycleError where
  | noProblem
  | notPrepared
  deriving DecidableEq

/-- Wording of a refusal. -/
def LifecycleError.message : LifecycleError → String
  | .noProblem => "problem is not set"
  | .notPrepared => "not prepared, call prepare() in advance"

/-- Where a search stands. -/
inductive Lifecycle where
  /-- No problem is set. -/
  | unset
  /-- A problem is set. -/
  | assigned
  /-- Workers and cursor are in place; the flags say whether solutions and energies are available. -/
  | prepared (solution energy : Bool)
  deriving DecidableEq

namespace Lifecycle

/-- Whether a problem is set. -/
def hasProblem : Lifecycle → Bool
  | .unset => false
  | _ => true

/-- Whether rounds can start. -/
def isPrepared : Lifecycle → Bool
  | .prepared _ _ => true
  | _ => false

/-- Whether solutions were made since the last round. -/
def hasSolution : Lifecycle → Bool
  | .prepared solution _ => solution
  | _ => false

/-- Whether energies were computed since the last round. -/
def hasEnergy : Lifecycle → Bool
  | .prepared _ energy => energy
  | _ => false

/-- Name of the phase. -/
def phase : Lifecycle → String
  | .unset => "unset"
  | .assigned => "problem set"
  | .prepared _ _ => "prepared"

/-! ## Requirements -/

/-- Refuses without a problem. -/
def requireProblem : Lifecycle → Except LifecycleError Unit
  | .unset => .error .noProblem
  | _ => .ok ()

/-- Refuses unless prepared. -/
def requirePrepared : Lifecycle → Except LifecycleError Unit
  | .unset => .error .noProblem
  | .assigned => .error .notPrepared
  | .prepared _ _ => .ok ()

/-! ## Steps -/

/-- A problem was set. -/
def assign : Lifecycle → Lifecycle := fun _ => .assigned

/-- Workers and cursor were put in place. -/
def prepare : Lifecycle → Except LifecycleError Lifecycle
  | .unset => .error .noProblem
  | _ => .ok (.prepared false false)

/-- A round is about to start. -/
def startRound : Lifecycle → Except LifecycleError Lifecycle
  | .unset => .error .noProblem
  | .assigned => .error .notPrepared
  | .prepared _ _ => .ok (.prepared false false)

/-- Solutions were made. -/
def gainSolution : Lifecycle → Except LifecycleError Lifecycle
  | .unset => .error .noProblem
  | .assigned => .error .notPrepared
  | .prepared _ energy => .ok (.prepared true energy)

/-- Energies were computed. -/
def gainEnergy : Lifecycle → Except LifecycleError Lifecycle
  | .unset => .error .noProblem
  | .assigned => .error .notPrepared
  | .prepared solution _ => .ok (.prepared solution true)

/-- Workers and cursor were given up. -/
def invalidate : Lifecycle → Lifecycle
  | .unset => .unset
  | _ => .assigned

end Lifecycle

end BinaryQuadratic
