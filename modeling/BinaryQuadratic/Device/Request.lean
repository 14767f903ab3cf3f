import BinaryQuadratic.Device.Error
import BinaryQuadratic.Scalar
import BinaryQuadratic.Step

/-!
# Requests to a device

A device holds buffers of numbers and buffers of indices, and runs kernels on them. It is used through requests:
buffers are allocated, freed and read at once, while copies and kernels are only queued, in order, and take effect when
the device is synchronised. What a request answers depends on its kind. Whatever answers requests is a provider.
-/

namespace BinaryQuadratic

namespace Device

/-! ## Handles and kernels -/

/-- A buffer of numbers, by the number of its allocation. -/
structure RealHandle where
  id : Nat
  deriving DecidableEq, Inhabited

/-- A buffer of indices or counts, by the number of its allocation. -/
structure IndexHandle where
  id : Nat
  deriving DecidableEq, Inhabited

/-- Work that a device can do on its buffers. -/
inductive Kernel (R : Type) where
  /-- Writes the assignments of `n` variables with the indices from `start` up to `stop` as rows of zeros and ones. -/
  | writeAssignments (out : RealHandle) (n : Nat) (start stop : Index)
  /-- Writes the energy of each of the first rows of `bits`, each `n` long. -/
  | energies (weights bits : RealHandle) (n rows : Nat) (out : RealHandle)
  /-- Writes the least of the first `length` values. -/
  | reduceLeast (values : RealHandle) (length : Nat) (out : RealHandle)
  /-- Writes `base + k` for each `k` below `length` at which the value equals the threshold, and how many there are. -/
  | select (values : RealHandle) (length : Nat) (threshold : R) (base : Index) (out count : IndexHandle)

/-! ## Requests and their answers -/

/-- What kind of answer a request has. -/
inductive Kind where
  | done
  | realHandle
  | indexHandle
  | reals
  | indices
  deriving DecidableEq

/-- Answers of a kind. -/
abbrev Kind.Answer (R : Type) : Kind → Type
  | .done => Unit
  | .realHandle => RealHandle
  | .indexHandle => IndexHandle
  | .reals => List R
  | .indices => List Index

/-- What can be asked of a device. -/
inductive Request (R : Type) : Kind → Type where
  /-- A new buffer of numbers. -/
  | allocReals (length : Nat) : Request R .realHandle
  /-- A new buffer of indices. -/
  | allocIndices (length : Nat) : Request R .indexHandle
  /-- Gives a buffer back. -/
  | free (id : Nat) : Request R .done
  /-- Queues writing numbers to the front of a buffer. -/
  | copy (target : RealHandle) (data : List R) : Request R .done
  /-- Queues a kernel. -/
  | launch (kernel : Kernel R) : Request R .done
  /-- Runs all that is queued. -/
  | synchronize : Request R .done
  /-- The first numbers of a buffer. -/
  | readReals (source : RealHandle) (length : Nat) : Request R .reals
  /-- The first indices of a buffer. -/
  | readIndices (source : IndexHandle) (length : Nat) : Request R .indices

/-! ## Providers -/

/-- Something that answers requests over numbers `R`. -/
class Provider (P : Type) (R : outParam Type) where
  /-- Name of the device. -/
  name : P → String
  /-- Answers a request. -/
  perform : {kind : Kind} → Request R kind → Step DeviceError P (kind.Answer R)

variable {P R : Type} [Provider P R]

/-- Allocates a buffer of numbers. -/
def allocReals (length : Nat) : Step DeviceError P RealHandle := Provider.perform (.allocReals length)

/-- Allocates a buffer of indices. -/
def allocIndices (length : Nat) : Step DeviceError P IndexHandle := Provider.perform (.allocIndices length)

/-- Frees a buffer. -/
def free (id : Nat) : Step DeviceError P Unit := Provider.perform (.free id)

/-- Queues writing numbers to the front of a buffer. -/
def copy (target : RealHandle) (data : List R) : Step DeviceError P Unit := Provider.perform (.copy target data)

/-- Queues a kernel. -/
def launch (kernel : Kernel R) : Step DeviceError P Unit := Provider.perform (.launch kernel)

/-- Runs all that is queued. -/
def synchronize : Step DeviceError P Unit := Provider.perform .synchronize

/-- The first numbers of a buffer. -/
def readReals (source : RealHandle) (length : Nat) : Step DeviceError P (List R) :=
  Provider.perform (.readReals source length)

/-- The first indices of a buffer. -/
def readIndices (source : IndexHandle) (length : Nat) : Step DeviceError P (List Index) :=
  Provider.perform (.readIndices source length)

end Device

end BinaryQuadratic
