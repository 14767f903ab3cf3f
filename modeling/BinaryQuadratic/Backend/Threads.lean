import BinaryQuadratic.Backend.Basic
import BinaryQuadratic.Matrix.Energy
import BinaryQuadratic.Walk

/-!
# Workers on the processor

A worker takes the indices of its span one after the other, computes the energy of each from the packed index, and
takes it into its incumbent. Nothing is shared between workers, so it makes no difference in which order, or at the
same time, those of a round run.
-/

namespace BinaryQuadratic

/-- A worker on the processor. -/
structure ThreadWorker (R : Type) where
  weights : Matrix R
  best : Incumbent R

namespace ThreadWorker

variable {R : Type} [Scalar R]

/-- Words of host memory that a worker takes: the address of the weights, which workers share, and the incumbent. -/
def words : Nat := 1 + Incumbent.words

/-- A worker that scanned nothing. -/
def fresh (weights : Matrix R) : ThreadWorker R := ⟨weights, .empty⟩

/-- The worker with nothing scanned. -/
def reset (w : ThreadWorker R) : ThreadWorker R := { w with best := .empty }

/-- Takes in an index with its energy. -/
def observe {ε : Type} (weights : Matrix R) (x : Index) : Step ε (Incumbent R) Unit := do
  let energy ← Step.ofOption (weights.energy? x)
  modify fun best => best.observe x energy

/-- Scans a span. -/
def scan {ε : Type} (span : Span) : Step ε (ThreadWorker R) Unit := fun w =>
  match span.walk (observe w.weights) w.best with
  | .ok _ best => .ok () { w with best := best }
  | .error halt best => .error halt { w with best := best }

end ThreadWorker

/-- Workers over numbers `R` on the processor, one per thread. -/
structure Threads (R : Type) where
  threads : Count

namespace Threads

variable {R : Type}

/-- A backend with this number of threads. -/
def withThreads (threads : UInt64) : Except SolverError (Threads R) :=
  if h : 0 < threads then .ok ⟨⟨threads, h⟩⟩ else .error (.preference (.notPositive "thread count"))

instance [Scalar R] : Backend (Threads R) R (ThreadWorker R) where
  name _ := "cpu"
  workers b := b.threads
  workerBytes := ThreadWorker.words * HostMemory.wordBytes
  create weights _ := pure (.fresh weights)
  discard _ := pure ()
  reset := ThreadWorker.reset
  best w := w.best
  scan span := fun (backend, worker) =>
    match worker.scan span with
    | .ok _ worker => .ok () (backend, worker)
    | .error halt worker => .error halt (backend, worker)

end Threads

end BinaryQuadratic
