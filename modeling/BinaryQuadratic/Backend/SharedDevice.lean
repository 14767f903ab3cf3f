import BinaryQuadratic.Backend.Basic
import BinaryQuadratic.Device.Worker

/-!
# Workers on a shared device

All workers of the backend use one device, one after the other.
-/

namespace BinaryQuadratic

/-- Workers that share a device. -/
structure SharedDevice (P : Type) where
  device : Device.Guarded P
  name : String
  workers : Count

namespace SharedDevice

variable {P R : Type} [Scalar R] [Device.Provider P R]

/-- A backend with this device and number of workers. -/
def withWorkers (device : P) (workers : UInt64) : Except SolverError (SharedDevice P) :=
  if h : 0 < workers then .ok ⟨.fresh device, Device.Provider.name device, ⟨workers, h⟩⟩
  else .error (.preference (.notPositive "device worker count"))

/-- A step on the device, as one on the backend. -/
def onDevice {α : Type} (step : Step DeviceError (Device.Guarded P) α) : Step SolverError (SharedDevice P) α :=
  fun b =>
    match step.mapError SolverError.device b.device with
    | .ok a device => .ok a { b with device := device }
    | .error halt device => .error halt { b with device := device }

/-- Lets a worker scan a span on the backend's device. -/
def scan (span : Span) : Step SolverError (SharedDevice P × Device.Worker R) Unit := fun (b, worker) =>
  match (Device.Worker.scan span).mapError SolverError.device (b.device, worker) with
  | .ok _ (device, worker) => .ok () ({ b with device := device }, worker)
  | .error halt (device, worker) => .error halt ({ b with device := device }, worker)

instance : Backend (SharedDevice P) R (Device.Worker R) where
  name b := b.name
  workers b := b.workers
  workerBytes := Device.Worker.words * HostMemory.wordBytes
  create weights tileSize := onDevice (Device.Worker.create weights tileSize)
  discard worker := onDevice worker.discard
  reset := Device.Worker.reset
  best worker := worker.best
  scan := scan

end SharedDevice

end BinaryQuadratic
