import BinaryQuadratic.Solver.Basic

/-!
# Scanning

How a solver takes up a problem, prepares workers for it, scans the index space round by round, and makes solutions
and energies from what the workers found. Results that are asked for are made first, with whatever scanning is still
missing.

The parts of a solver change one after the other, in the order given here. A step that ends early, because a device
failed or crashed, leaves those changes that came before it.
-/

namespace BinaryQuadratic.Solver

variable {B R W : Type} [Scalar R] [Backend B R W]

/-! ## Setting up -/

/-- Gives up the pool and the schedule. -/
def releaseWorkers : Action B R W Unit := do
  let pool := (← get).pool
  modify fun s => { s with pool := [] }
  onBackend (Backend.discardAll pool)
  modify fun s => { s with poolTile := 0, schedule := none }

/-- Forgets the results. -/
def clearResults : Action B R W Unit :=
  modify fun s => { s with minimum := Scalar.infinity, solutions := [], energies := [] }

/-- Takes up a new problem. A problem that is refused changes nothing. -/
def setProblem (weights : Matrix R) (direction : Direction) : Action B R W Unit := do
  let problem ← Step.ofExcept .matrix (Problem.pose weights direction)
  releaseWorkers
  clearResults
  modify fun s => { s with problem := some problem, lifecycle := s.lifecycle.assign }

/-- Makes a new pool unless there is one for tiles of this size. -/
def fillPool (weights : Matrix R) (tileSize : UInt64) : Action B R W Unit := do
  let s ← get
  if s.pool.isEmpty || s.poolTile != tileSize then
    releaseWorkers
    let pool ← onBackend (Backend.createPool weights tileSize (Backend.workers s.backend))
    modify fun s => { s with pool := pool, poolTile := tileSize }

/-- Makes ready for a scan from the first index on. What was scanned before is given up first. -/
def prepare : Action B R W Unit := do
  require Lifecycle.requireProblem
  let problem ← current
  modify fun s => { s with lifecycle := s.lifecycle.invalidate, schedule := none }
  clearResults
  let s ← get
  let schedule := Schedule.start problem.size s.tileSize (Backend.workers s.backend)
  fillPool problem.weights schedule.tileSize
  modify fun s => { s with pool := s.pool.map (Backend.reset B), schedule := some schedule }
  moveOn Lifecycle.prepare

/-! ## Rounds -/

/-- Scans one round. Tells whether every index was handed out, and the cursor. -/
def scanRound : Action B R W (Bool × Index) := do
  moveOn Lifecycle.startRound
  match (← get).schedule with
  | none => outOfOrder .notPrepared
  | some schedule =>
    onPool (Backend.scanRound schedule.round)
    let advanced := schedule.advance
    modify fun s => { s with schedule := some advanced }
    return (advanced.isComplete, advanced.cursor)

/-- Scans rounds, up to the first that fails. -/
def scanRounds : Nat → Action B R W Unit
  | 0 => pure ()
  | k + 1 => do
    let _ ← scanRound
    scanRounds k

/-- Scans all rounds that are left. Their number is counted first; a loop that asks for every round whether it is needed
does the same (`repeats_roundUnlessComplete_iff`, `repeats_roundIncomplete_iff`). -/
def scanRest : Action B R W Unit := do
  match (← get).schedule with
  | none => outOfOrder .notPrepared
  | some schedule => scanRounds schedule.roundsLeft

/-! ## Results -/

/-- Makes the solutions from what was scanned so far: the first assignments of least energy, as many as a tile holds. -/
def gatherSolutions : Action B R W Unit := do
  require Lifecycle.requirePrepared
  match (← get).tileInUse with
  | none => outOfOrder .notPrepared
  | some cap =>
    let n := (← current).size
    let merged := Incumbent.merge ((← get).pool.map (Backend.best B)) cap.1.toNat
    modify fun s =>
      { s with minimum := merged.energy, solutions := merged.indices.map (·.decode n), energies := [] }
    moveOn Lifecycle.gainSolution

/-- Makes one energy for each solution, or one if there is none. -/
def fillEnergies : Action B R W Unit := do
  require Lifecycle.requirePrepared
  unless (← get).lifecycle.hasSolution do gatherSolutions
  let problem ← current
  modify fun s =>
    { s with energies := List.replicate (max s.solutions.length 1) (problem.external s.minimum) }
  moveOn Lifecycle.gainEnergy

/-- Prepares, scans every index and makes the solutions. -/
def search : Action B R W Unit := do
  prepare
  scanRest
  gatherSolutions

/-- Does what is missing for solutions of a full scan. -/
def complete : Action B R W Unit := do
  require Lifecycle.requireProblem
  unless (← get).lifecycle.isPrepared do prepare
  scanRest
  unless (← get).lifecycle.hasSolution do gatherSolutions

/-- The solutions of a full scan, ascending. -/
def readSolutions : Action B R W (List Assignment) := do
  complete
  return (← get).solutions

/-- The energies of the solutions of a full scan. -/
def readEnergies : Action B R W (List R) := do
  complete
  unless (← get).lifecycle.hasEnergy do fillEnergies
  return (← get).energies

/-- The energy of the solutions of a full scan, in the direction of the problem. -/
def readMinimum : Action B R W R := do
  complete
  let problem ← current
  return problem.external (← get).minimum

/-- Gives up the workers and the results. The problem stays. -/
def release : Action B R W Unit := do
  releaseWorkers
  clearResults
  modify fun s => { s with lifecycle := s.lifecycle.invalidate }

end BinaryQuadratic.Solver
