import BinaryQuadratic.Device.Request

/-!
# Devices that fail on demand

A provider around another one that numbers the requests made of it from zero, keeps a log of them, and fails those that
a plan names. A request that fails by plan, with an error or with a crash, does not reach the device behind, whose
buffers and queue stay as they are.
-/

namespace BinaryQuadratic.Device

/-- Which requests fail, and how, by their number. -/
abbrev FaultPlan := Nat → Option (Halt DeviceError)

/-- A provider that answers by another one, except where its plan says otherwise. -/
structure Faulty (P R : Type) where
  device : P
  name : String
  plan : FaultPlan
  /-- Number of requests so far, which is the number of the next one. -/
  count : Nat
  /-- Requests so far, the latest first. -/
  log : List (Σ kind, Request R kind)

namespace Faulty

variable {P R : Type} [Provider P R]

/-- A provider of which nothing was requested yet. -/
def fresh (device : P) (name : String) (plan : FaultPlan) : Faulty P R := ⟨device, name, plan, 0, []⟩

/-- Answers a request by plan, or else by the device behind. -/
def perform {kind : Kind} (request : Request R kind) : Step DeviceError (Faulty P R) (kind.Answer R) := fun f =>
  let logged := { f with count := f.count + 1, log := ⟨kind, request⟩ :: f.log }
  match f.plan f.count with
  | some halt => .error halt logged
  | none =>
    match Provider.perform request logged.device with
    | .ok answer device => .ok answer { logged with device := device }
    | .error halt device => .error halt { logged with device := device }

instance : Provider (Faulty P R) R where
  name f := f.name
  perform := perform

end Faulty

end BinaryQuadratic.Device
