import BinaryQuadratic.Index

/-!
# Device errors

What a device can report. After most of these the device is not to be relied on any more.
-/

namespace BinaryQuadratic

namespace Device

/-- Why a kernel could not be launched. -/
inductive LaunchError where
  /-- The span of indices ends before it starts. -/
  | reversed (start stop : Index)
  /-- Any other reason, in words. -/
  | other (reason : String)
  deriving DecidableEq

/-- Wording of a failed launch. -/
def LaunchError.message : LaunchError → String
  | .reversed start stop => s!"reversed bit range [{start.text}, {stop.text})"
  | .other reason => reason

end Device

/-- What a device reports when a request fails. -/
inductive DeviceError where
  /-- More elements were asked for than are left. -/
  | outOfMemory (requested available : Nat)
  /-- No buffer has this number. -/
  | invalidBuffer (buffer : Nat)
  /-- The buffer is shorter than needed. -/
  | bufferTooSmall (buffer length needed : Nat)
  /-- The buffer holds elements of the other type. -/
  | typeMismatch (buffer : Nat)
  /-- The kernel could not be launched. -/
  | kernelLaunch (cause : Device.LaunchError)
  /-- Commands are waiting, so nothing can be read. -/
  | pending
  /-- The device was lost. -/
  | poisoned
  deriving DecidableEq

/-- Wording of a device error. -/
def DeviceError.message : DeviceError → String
  | .outOfMemory requested available =>
    s!"device out of memory: {requested} elements requested, {available} available"
  | .invalidBuffer buffer => s!"unknown device buffer #{buffer}"
  | .bufferTooSmall buffer length needed =>
    s!"device buffer #{buffer} holds {length} elements, {needed} needed"
  | .typeMismatch buffer => s!"device buffer #{buffer} has a different element type"
  | .kernelLaunch cause => s!"kernel launch failed: {cause.message}"
  | .pending => "device queue has pending work; synchronize before reading"
  | .poisoned => "device context was lost by an earlier failure"

end BinaryQuadratic
