import BinaryQuadratic.Assignment
import BinaryQuadratic.Backend.Basic
import BinaryQuadratic.Problem

/-!
# Solvers

A solver holds a problem, a pool of workers of one backend, the schedule of the scan under way, and the results made
from it. This module holds its parts and its preferences.

Preferences are for the next preparation: the tile size that is asked for and the one in use are apart from each other,
and setting one leaves a scan under way as it is. Several preferences are set all together or not at all.
-/

namespace BinaryQuadratic

/-- A solver on backends `B` with workers `W`, over numbers `R`. -/
structure Solver (B R W : Type) where
  backend : B
  /-- The tile size asked for. -/
  tileSize : Count
  lifecycle : Lifecycle
  problem : Option (Problem R)
  schedule : Option Schedule
  pool : List W
  /-- Tile size that the pool was made for, zero without a pool. -/
  poolTile : UInt64
  /-- Least energy of the solutions, as stored. -/
  minimum : R
  solutions : List Assignment
  /-- Energies of the solutions, in the direction of the problem. -/
  energies : List R

namespace Solver

variable {B R W : Type} [Scalar R] [Backend B R W]

/-- A solver without a problem. -/
def fresh (backend : B) : Solver B R W where
  backend := backend
  tileSize := Schedule.defaultTileSize
  lifecycle := .unset
  problem := none
  schedule := none
  pool := []
  poolTile := 0
  minimum := Scalar.infinity
  solutions := []
  energies := []

/-! ## Views -/

/-- The tile size in use. -/
def tileInUse (s : Solver B R W) : Option Count := s.schedule.map (·.tileSize)

/-- Whether every index was handed out since the solver was prepared. -/
def isComplete (s : Solver B R W) : Bool := s.lifecycle.isPrepared && s.schedule.any (·.isComplete)

/-- The algorithm in use: there is only one. -/
def algorithm : Algorithm := .bruteForceSearch

/-- The value of a preference. -/
def preference (s : Solver B R W) : PreferenceName → Preference
  | .algorithm => .algorithm algorithm
  | .tileSize => .tileSize s.tileSize
  | .precision => .precision (Scalar.precision R)
  | .device => .device (Backend.name s.backend)

/-- The values of all preferences. -/
def preferences (s : Solver B R W) : List Preference := PreferenceName.all.map s.preference

/-! ## Steps of a solver -/

/-- A step of a solver. -/
abbrev Action (B R W α : Type) : Type := Step SolverError (Solver B R W) α

/-- Ends with an error of the lifecycle. -/
def outOfOrder {α : Type} (error : LifecycleError) : Action B R W α := Step.fail (.lifecycle error)

/-- Refuses unless the lifecycle allows it. -/
def require (allowed : Lifecycle → Except LifecycleError Unit) : Action B R W Unit := do
  Step.ofExcept .lifecycle (allowed (← get).lifecycle)

/-- Moves the lifecycle on, or refuses. -/
def moveOn (step : Lifecycle → Except LifecycleError Lifecycle) : Action B R W Unit := do
  let lifecycle ← Step.ofExcept .lifecycle (step (← get).lifecycle)
  modify fun s => { s with lifecycle := lifecycle }

/-- The problem, which there must be. -/
def current : Action B R W (Problem R) := do
  match (← get).problem with
  | some problem => return problem
  | none => outOfOrder .noProblem

/-- A step on the backend. -/
def onBackend {α : Type} (step : Step SolverError B α) : Action B R W α := fun s =>
  match step s.backend with
  | .ok a backend => .ok a { s with backend := backend }
  | .error halt backend => .error halt { s with backend := backend }

/-- A step on the backend and the pool. -/
def onPool {α : Type} (step : Step SolverError (B × List W) α) : Action B R W α := fun s =>
  match step (s.backend, s.pool) with
  | .ok a (backend, pool) => .ok a { s with backend := backend, pool := pool }
  | .error halt (backend, pool) => .error halt { s with backend := backend, pool := pool }

/-! ## Setting preferences -/

/-- Applies a change of the tile size, if there is one. -/
def applyChange (s : Solver B R W) : Option Count → Solver B R W
  | some size => { s with tileSize := size }
  | none => s

/-- Sets a preference. -/
def setPreference (preference : Preference) : Action B R W Unit := do
  let change ← Step.ofExcept .preference preference.change
  modify fun s => s.applyChange change

/-- Sets several preferences, in order, or none of them. -/
def setPreferences (preferences : List Preference) : Action B R W Unit := do
  let changes ← Step.ofExcept .preference (preferences.mapM Preference.change)
  modify fun s => changes.foldl applyChange s

/-- Sets a preference that is given in words. -/
def setPreferenceText (name value : String) : Action B R W Unit := do
  setPreference (← Step.ofExcept .preference (Preference.parse name value))

end Solver

end BinaryQuadratic
