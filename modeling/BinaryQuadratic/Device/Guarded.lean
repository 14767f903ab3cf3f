import BinaryQuadratic.Device.Request

/-!
# A device shared by workers

Workers share one device and hold it while they use it. If a request crashes, the worker that made it never gives the
device back: it counts as lost, and whoever asks for it afterwards is refused without a request being made.
-/

namespace BinaryQuadratic.Device

/-- A device that is lost once a request to it crashed. -/
structure Guarded (P : Type) where
  device : P
  lost : Bool

namespace Guarded

variable {P R : Type} [Provider P R]

/-- A device that nobody used yet. -/
def fresh (device : P) : Guarded P := ⟨device, false⟩

/-- Takes hold of the device. -/
def acquire : Step DeviceError (Guarded P) Unit := do
  if (← get).lost then Step.fail .poisoned

/-- Crashes while the device is held. -/
def abandon {α : Type} : Step DeviceError (Guarded P) α := fun g => .error .crash { g with lost := true }

/-- Answers a request made while the device is held. -/
def perform {kind : Kind} (request : Request R kind) : Step DeviceError (Guarded P) (kind.Answer R) := fun g =>
  match Provider.perform request g.device with
  | .ok answer device => .ok answer { g with device := device }
  | .error (.error cause) device => .error (.error cause) { g with device := device }
  | .error .crash device => .error .crash { device := device, lost := true }

instance : Provider (Guarded P) R where
  name g := Provider.name g.device
  perform := perform

end Guarded

end BinaryQuadratic.Device
