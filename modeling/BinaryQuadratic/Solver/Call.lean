import BinaryQuadratic.Solver.Scan

/-!
# Calls on a solver

Everything that can be asked of a solver from outside, as data: a call, its reply, and runs of several calls. A call
that ends early has no reply, and the solver goes on from where it was left.
-/

namespace BinaryQuadratic.Solver

/-- A call on a solver over numbers `R`. -/
inductive Call (R : Type) where
  | setProblem (weights : Matrix R) (direction : Direction)
  | prepare
  | scanRound
  | gatherSolutions
  | fillEnergies
  | search
  | release
  | solutions
  | energies
  | minimumEnergy
  | problemSize
  | direction
  | algorithm
  | selectAlgorithm (requested : Algorithm)
  | backend
  | preferences
  | preference (name : PreferenceName)
  | setPreference (preference : Preference)
  | setPreferences (preferences : List Preference)
  | setPreferenceText (name value : String)

/-- The reply to a call. -/
inductive Reply (R : Type) where
  | done
  | progress (complete : Bool) (cursor : Index)
  | solutions (assignments : List Assignment)
  | energies (energies : List R)
  | energy (energy : R)
  | size (n : Nat)
  | direction (direction : Direction)
  | algorithm (algorithm : Algorithm)
  | backend (name : String) (workers : Count)
  | preferences (preferences : List Preference)
  | preference (preference : Preference)

variable {B R W : Type} [Scalar R] [Backend B R W]

/-- Answers a call. -/
def perform : Call R → Action B R W (Reply R)
  | .setProblem weights direction => do setProblem weights direction; return .done
  | .prepare => do prepare; return .done
  | .scanRound => do
    let (complete, cursor) ← scanRound
    return .progress complete cursor
  | .gatherSolutions => do gatherSolutions; return .done
  | .fillEnergies => do fillEnergies; return .done
  | .search => do search; return .done
  | .release => do release; return .done
  | .solutions => return .solutions (← readSolutions)
  | .energies => return .energies (← readEnergies)
  | .minimumEnergy => return .energy (← readMinimum)
  | .problemSize => return .size (← current).size
  | .direction => return .direction (← current).direction
  | .algorithm => return .algorithm algorithm
  | .selectAlgorithm _ => return .algorithm algorithm
  | .backend => return .backend (Backend.name (← get).backend) (Backend.workers (← get).backend)
  | .preferences => return .preferences (← get).preferences
  | .preference name => return .preference ((← get).preference name)
  | .setPreference preference => do setPreference preference; return .done
  | .setPreferences preferences => do setPreferences preferences; return .done
  | .setPreferenceText name value => do setPreferenceText name value; return .done

/-- How a call ended. -/
abbrev Outcome (R : Type) := Except (Halt SolverError) (Reply R)

/-- Answers a call, and tells the solver afterwards. -/
def answer (s : Solver B R W) (call : Call R) : Outcome R × Solver B R W :=
  match perform call s with
  | .ok reply s => (.ok reply, s)
  | .error halt s => (.error halt, s)

/-- Answers several calls, in order. -/
def run (s : Solver B R W) : List (Call R) → List (Outcome R) × Solver B R W
  | [] => ([], s)
  | call :: calls =>
    let (outcome, s) := s.answer call
    let (outcomes, s) := run s calls
    (outcome :: outcomes, s)

end BinaryQuadratic.Solver
