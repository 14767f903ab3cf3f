import BinaryQuadratic.Device.Guarded
import BinaryQuadratic.Incumbent
import BinaryQuadratic.Matrix.Basic
import BinaryQuadratic.Walk

/-!
# Workers on a device

A worker owns six buffers on a device: the weights, the assignments of a batch as rows of zeros and ones, their
energies, the least of these, the indices that reach it, and the number of these. A span is scanned in batches. The
device computes the energies of a batch and the least one; only if that reaches the worker's incumbent does it also
pick out the indices that reached it, in ascending order.

Creating a worker either allocates all six buffers and uploads the weights, or leaves nothing allocated.
-/

namespace BinaryQuadratic.Device

variable {D R : Type} [Provider D R]

/-! ## Buffers of a worker -/

/-- The buffers that a worker owns. -/
structure WorkerBuffers where
  weights : RealHandle
  bits : RealHandle
  energies : RealHandle
  minimum : RealHandle
  selected : IndexHandle
  count : IndexHandle
  deriving DecidableEq

/-- Words of host memory that six buffers take: number and length of each. -/
def WorkerBuffers.words : Nat := 6 * 2

/-- Numbers of the buffers, in the order of their allocation. -/
def WorkerBuffers.ids (b : WorkerBuffers) : List Nat :=
  [b.weights.id, b.bits.id, b.energies.id, b.minimum.id, b.selected.id, b.count.id]

/-- Frees buffers one after the other. An error in freeing one does not keep the others from being freed. -/
def freeAll : List Nat → Step DeviceError D Unit
  | [] => pure ()
  | id :: rest => do
    (free id).ignoreError
    freeAll rest

/-- Number of elements of `a` rows of length `b`. A number past the largest word can be no length of a buffer. -/
def bufferLength (a b : Nat) : Step DeviceError D Nat :=
  if a * b < 2 ^ 64 then pure (a * b) else Step.fail (.outOfMemory (2 ^ 64 - 1) 0)

/-- Allocates the buffers for `n` variables and batches of the given size, or none. -/
def WorkerBuffers.allocate (n batch : Nat) : Step DeviceError D WorkerBuffers := do
  let weights ← bufferLength n n >>= allocReals
  let bits ← (bufferLength n batch >>= allocReals).orCleanup (freeAll [weights.id])
  let energies ← (allocReals batch).orCleanup (freeAll [weights.id, bits.id])
  let minimum ← (allocReals 1).orCleanup (freeAll [weights.id, bits.id, energies.id])
  let selected ← (allocIndices batch).orCleanup (freeAll [weights.id, bits.id, energies.id, minimum.id])
  let count ← (allocIndices 1).orCleanup (freeAll [weights.id, bits.id, energies.id, minimum.id, selected.id])
  return ⟨weights, bits, energies, minimum, selected, count⟩

/-! ## Workers -/

/-- A worker on a device. -/
structure Worker (R : Type) where
  n : Nat
  batch : Count
  buffers : WorkerBuffers
  best : Incumbent R

namespace Worker

/-- Words of host memory that a worker takes: the address of the device, which workers share, the numbers of variables
and of indices in a batch, the buffers, and the incumbent. -/
def words : Nat := 3 + WorkerBuffers.words + Incumbent.words

variable [Scalar R]

/-- Creates a worker for these weights, with its own buffers. A batch holds at least one index. -/
def create (weights : Matrix R) (batch : UInt64) : Step DeviceError (Guarded D) (Worker R) := do
  let batch : Count := if h : 0 < batch then ⟨batch, h⟩ else ⟨1, by decide⟩
  Guarded.acquire
  let buffers ← WorkerBuffers.allocate weights.rows batch.1.toNat
  let upload : Step DeviceError (Guarded D) Unit := do
    copy buffers.weights weights.data.toList
    synchronize
  upload.orCleanup (freeAll buffers.ids)
  return ⟨weights.rows, batch, buffers, .empty⟩

/-- Gives the worker's buffers back, unless the device was lost. -/
def discard (w : Worker R) : Step DeviceError (Guarded D) Unit := do
  unless (← get).lost do freeAll w.buffers.ids

/-- The worker with nothing scanned. -/
def reset (w : Worker R) : Worker R := { w with best := .empty }

/-- First entry of an answer; there is no going on without it. -/
def first {α : Type} : List α → Step DeviceError (Guarded D) α
  | [] => Guarded.abandon
  | a :: _ => pure a

/-- The least energy of the batch. -/
def minimumOf (w : Worker R) (batch : Span) : Step DeviceError (Guarded D) R := do
  launch (.writeAssignments w.buffers.bits w.n batch.start batch.stop)
  launch (.energies w.buffers.weights w.buffers.bits w.n batch.size w.buffers.energies)
  launch (.reduceLeast w.buffers.energies batch.size w.buffers.minimum)
  synchronize
  first (← readReals w.buffers.minimum 1)

/-- The indices of the batch at this energy, after its energies were computed. -/
def indicesAt (w : Worker R) (batch : Span) (energy : R) : Step DeviceError (Guarded D) (List Index) := do
  launch (.select w.buffers.energies batch.size energy batch.start w.buffers.selected w.buffers.count)
  synchronize
  let count ← first (← readIndices w.buffers.count 1)
  readIndices w.buffers.selected count.toNat

/-- Scans a batch. The incumbent moves down before its indices are known. -/
def scanBatch (batch : Span) : Step DeviceError (Guarded D × Worker R) Unit := do
  let w := (← get).2
  let energy ← (w.minimumOf batch).onFirst
  let best := w.best.lower energy
  modify fun s => (s.1, { w with best := best })
  if best.reaches energy then
    let indices ← (w.indicesAt batch energy).onFirst
    modify fun s => (s.1, { w with best := best.extend indices })

/-- Scans a span, batch by batch. -/
def scan (span : Span) : Step DeviceError (Guarded D × Worker R) Unit := do
  Guarded.acquire.onFirst
  span.walkBatches (← get).2.batch scanBatch

end Worker

end BinaryQuadratic.Device
