import BinaryQuadratic.Device.Kernel
import BinaryQuadratic.HostMemory

/-!
# A device in host memory

A provider that keeps its buffers in host memory and runs queued commands one after the other when it is synchronised.
Its memory can be limited to a number of elements. A request for a buffer that no block of host memory could hold
crashes, and the number and the elements meant for the buffer stay spent. A command that fails loses the device: what
is still queued is dropped, and from then on nothing but freeing buffers is possible. Nothing can be read while
commands are waiting.
-/

namespace BinaryQuadratic.Device

/-- A device in host memory. -/
structure Machine (R : Type) where
  memory : Memory R
  queue : List (Command R)
  allocated : Nat
  capacity : Option Nat
  poisoned : Bool

namespace Machine

variable {R : Type} [Scalar R]

/-- A device without buffers, for at most as many elements as the capacity says. -/
def empty (capacity : Option Nat) : Machine R := ⟨.empty, [], 0, capacity, false⟩

/-- Refuses if the device was lost. -/
def checkAlive : Step DeviceError (Machine R) Unit := do
  if (← get).poisoned then Step.fail .poisoned

/-- Refuses if commands are waiting. -/
def checkIdle : Step DeviceError (Machine R) Unit := do
  unless (← get).queue.isEmpty do Step.fail .pending

/-- Number of elements that can still be allocated, if there is a limit. -/
def room (device : Machine R) : Option Nat := device.capacity.map (· - device.allocated)

/-- Refuses a length for which there is no room. -/
def checkRoom (length : Nat) : Step DeviceError (Machine R) Unit := do
  match (← get).room with
  | some available => if available < length then Step.fail (.outOfMemory length available)
  | none => pure ()

/-- Allocates a buffer, made to measure out of elements of this many bytes if there is room for it, and tells its
number. -/
def allocate (make : Nat → Buffer R) (bytes length : Nat) : Step DeviceError (Machine R) Nat := do
  checkAlive
  checkRoom length
  let device ← get
  let allocated := device.allocated + length
  if HostMemory.Fits length bytes then
    set { device with memory := device.memory.push (make length), allocated := allocated }
    return device.memory.slots.size
  else
    set { device with memory := device.memory.skip, allocated := allocated }
    Step.crash

/-- Frees a buffer, also on a device that was lost. -/
def release (id : Nat) : Step DeviceError (Machine R) Unit := do
  let device ← get
  match device.memory.buffer? id with
  | some buffer =>
    set { device with memory := device.memory.remove id, allocated := device.allocated - buffer.length }
  | none => Step.fail (.invalidBuffer id)

/-- Queues a command. -/
def enqueue (command : Command R) : Step DeviceError (Machine R) Unit := do
  checkAlive
  modify fun device => { device with queue := device.queue ++ [command] }

/-- Runs all commands in the queue. -/
def drain : Step DeviceError (Machine R) Unit := fun device =>
  match Command.runAll device.queue device.memory with
  | .ok _ memory => .ok () { device with memory := memory, queue := [] }
  | .error halt memory => .error halt { device with memory := memory, queue := [], poisoned := true }

/-- Reads from the memory of a device with nothing in its queue. -/
def read {α : Type} (reader : Step DeviceError (Memory R) α) : Step DeviceError (Machine R) α := do
  checkAlive
  checkIdle
  fun device =>
    match reader device.memory with
    | .ok a _ => .ok a device
    | .error halt _ => .error halt device

/-- Answers a request. -/
def perform : {kind : Kind} → Request R kind → Step DeviceError (Machine R) (kind.Answer R)
  | _, .allocReals length => do
    return ⟨← allocate (fun k => .reals (List.replicate k 0)) (Scalar.bytes R) length⟩
  | _, .allocIndices length => do
    return ⟨← allocate (fun k => .indices (List.replicate k 0)) HostMemory.wordBytes length⟩
  | _, .free id => release id
  | _, .copy target data => enqueue (.copy target data)
  | _, .launch kernel => enqueue (.launch kernel)
  | _, .synchronize => do
    checkAlive
    drain
  | _, .readReals source length => read (Memory.readReals source length)
  | _, .readIndices source length => read (Memory.readIndices source length)

instance : Provider (Machine R) R where
  name _ := "host"
  perform := perform

end Machine

end BinaryQuadratic.Device
