import BinaryQuadratic.Device.Error
import BinaryQuadratic.Lifecycle
import BinaryQuadratic.Matrix.Basic
import BinaryQuadratic.Preference

/-!
# Errors of a solver

Everything a solver can refuse or fail at: a matrix, a preference, a step out of order, or the device below.
-/

namespace BinaryQuadratic

/-- Why a call on a solver failed. -/
inductive SolverError where
  | matrix (error : MatrixError)
  | preference (error : PreferenceError)
  | lifecycle (error : LifecycleError)
  | device (error : DeviceError)
  deriving DecidableEq

namespace SolverError

/-- Wording of an error. -/
def message : SolverError → String
  | .matrix error => error.message
  | .preference error => s!"invalid preference: {error.message}"
  | .lifecycle error => error.message
  | .device error => s!"device error: {error.message}"

/-- Whether a matrix was refused for its shape or for not being symmetric. -/
def isShapeError : SolverError → Bool
  | .matrix (.shape _ _) => true
  | .matrix (.notSymmetric _ _) => true
  | _ => false

end SolverError

end BinaryQuadratic
