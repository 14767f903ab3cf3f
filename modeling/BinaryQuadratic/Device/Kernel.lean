import BinaryQuadratic.Device.Memory
import BinaryQuadratic.Matrix.Energy

/-!
# Running kernels

What the commands in a device's queue do to its memory. Each command checks its operands in a fixed order before it
writes, and leaves every buffer in place with its length and type, also when it fails.
-/

namespace BinaryQuadratic.Device

variable {R : Type} [Scalar R]

/-! ## What kernels compute -/

/-- Assignments of `n` variables, at most 64, with the indices from `start` on, row after row. -/
def bitRows (n rows : Nat) (start : Index) : List R :=
  if n = 0 then []
  else (List.range rows).flatMap fun r => ((start + r.toUInt64).decode n).toScalars R

/-- The first rows, each `n` long, of a list of numbers. -/
def rowsOf (n : Nat) : Nat → List R → List (List R)
  | 0, _ => []
  | rows + 1, bits => bits.take n :: rowsOf n rows (bits.drop n)

/-- Places below `length` at which a value equals the threshold, counted from `base`. -/
def selectedFrom (values : List R) (threshold : R) (base : Index) : List Index :=
  values.zipIdx.filterMap fun (value, k) => if value == threshold then some (base + k.toUInt64) else none

/-! ## Commands -/

/-- A command in the queue of a device. -/
inductive Command (R : Type) where
  | copy (target : RealHandle) (data : List R)
  | launch (kernel : Kernel R)

/-- Energies of the first rows of `bits`. -/
def evaluateRows (weights bits : RealHandle) (n rows : Nat) : Step DeviceError (Memory R) (List R) := do
  let w ← Memory.readReals weights (n * n)
  let b ← Memory.readReals bits (rows * n)
  Step.ofOption ((rowsOf n rows b).mapM (quadraticForm? w n))

/-- Runs a kernel. Numbers of elements are naturals, and a device has words for them. So this is what a device does for
at most 64 variables while the products `n * n` and `rows * n` are below `2 ^ 64`, as they are in all that a worker asks
for (`Worker.length_operands_lt`). -/
def Kernel.run : Kernel R → Step DeviceError (Memory R) Unit
  | .writeAssignments out n start stop => do
    if stop < start then Step.fail (.kernelLaunch (.reversed start stop))
    let rows := stop.toNat - start.toNat
    let old ← Memory.takeReals out (rows * n)
    Memory.putReals out old (bitRows n rows start)
  | .energies weights bits n rows out => do
    let old ← Memory.takeReals out rows
    let energies ← (evaluateRows weights bits n rows).orCleanup (Memory.putReals out old [])
    Memory.putReals out old energies
  | .reduceLeast values length out => do
    let values ← Memory.readReals values length
    let old ← Memory.takeReals out 1
    Memory.putReals out old [Scalar.least values]
  | .select values length threshold base out count => do
    let values ← Memory.readReals values length
    let selected := selectedFrom values threshold base
    let old ← Memory.takeIndices out selected.length
    Memory.putIndices out old selected
    let old ← Memory.takeIndices count 1
    Memory.putIndices count old [selected.length.toUInt64]

/-- Runs a command. -/
def Command.run : Command R → Step DeviceError (Memory R) Unit
  | .copy target data => do
    let old ← Memory.takeReals target data.length
    Memory.putReals target old data
  | .launch kernel => kernel.run

/-- Runs commands one after the other, up to the first that fails. -/
def Command.runAll : List (Command R) → Step DeviceError (Memory R) Unit
  | [] => pure ()
  | command :: rest => do
    command.run
    runAll rest

end BinaryQuadratic.Device
