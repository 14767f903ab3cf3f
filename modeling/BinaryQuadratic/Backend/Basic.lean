import BinaryQuadratic.Error
import BinaryQuadratic.HostMemory
import BinaryQuadratic.Incumbent
import BinaryQuadratic.Schedule
import BinaryQuadratic.Step

/-!
# Backends

A backend makes workers and lets them scan. Workers of one backend form a pool, which is made before a scan and given
up after it. Host memory for the whole pool is made sure of before its first worker is made. In a round every worker of
the pool scans one tile; the round ends early at the first worker that fails, and what the workers found up to then is
kept.
-/

namespace BinaryQuadratic

/-- A kind of backend `B` with workers `W` over numbers `R`. -/
class Backend (B : Type) (R W : outParam Type) where
  /-- Name of the device that workers run on. -/
  name : B → String
  /-- Number of workers in a pool. -/
  workers : B → Count
  /-- Bytes that a worker takes in the memory of a pool. -/
  workerBytes : Nat
  /-- Makes a worker for these weights, which will scan tiles of at most this size. -/
  create : Matrix R → UInt64 → Step SolverError B W
  /-- Gives up a worker. -/
  discard : W → Step SolverError B Unit
  /-- The worker with nothing scanned. -/
  reset : W → W
  /-- What the worker found. -/
  best : W → Incumbent R
  /-- Lets the worker scan a span. -/
  scan : Span → Step SolverError (B × W) Unit

namespace Backend

variable {B R W : Type} [Backend B R W]

/-- Gives up workers, in order. -/
def discardAll : List W → Step SolverError B Unit
  | [] => pure ()
  | worker :: rest => do
    discard worker
    discardAll rest

/-- Adds the given number of new workers to those made so far. If one cannot be made, all are given up. -/
def createMore (weights : Matrix R) (tileSize : UInt64) : Nat → List W → Step SolverError B (List W)
  | 0, made => pure made
  | k + 1, made => do
    let worker ← (create weights tileSize).orCleanup (discardAll made)
    createMore weights tileSize k (made ++ [worker])

/-- Makes a pool of workers, or none. -/
def createPool (weights : Matrix R) (tileSize : UInt64) (count : Count) : Step SolverError B (List W) := do
  HostMemory.reserve count.1.toNat (workerBytes B)
  createMore weights tileSize count.1.toNat []

/-- Lets each worker of the pool scan the tile at the same place of the list. -/
def scanRound : List Tile → Step SolverError (B × List W) Unit
  | [] => pure ()
  | tile :: tiles => fun (backend, pool) =>
    match pool with
    | [] => .ok () (backend, [])
    | worker :: rest =>
      match scan tile.span (backend, worker) with
      | .error halt (backend, worker) => .error halt (backend, worker :: rest)
      | .ok _ (backend, worker) =>
        match scanRound tiles (backend, rest) with
        | .ok _ (backend, rest) => .ok () (backend, worker :: rest)
        | .error halt (backend, rest) => .error halt (backend, worker :: rest)

end Backend

end BinaryQuadratic
