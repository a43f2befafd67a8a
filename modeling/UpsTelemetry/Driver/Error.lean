import UpsTelemetry.Frame.Error
import UpsTelemetry.Frame.ReturnCode

/-!
# What can go wrong with an operation

The causes for which an operation of the driver fails, and the wording of each. The fault of a link
is carried along as it is, but not worded: it belongs to the link.
-/

namespace UpsTelemetry

/-- Why an operation failed, over a link with faults of type `ε`. -/
inductive DriverError (ε : Type)
  /-- The link had a fault. -/
  | link (fault : ε)
  /-- The UPS did not take the request, or did not answer, in time. -/
  | timeout
  /-- A frame was at fault. -/
  | frame (error : FrameError)
  /-- The UPS rejected the request. -/
  | rejected (code : ReturnCode)
  /-- There is no command of that name. -/
  | unknownCommand
  /-- The reply to identification was too short. -/
  | insufficientIdentification (got : Nat)
deriving DecidableEq, Repr

/-- The wording of each cause. -/
def DriverError.message {ε : Type} : DriverError ε → String
  | link _ => "Serial communication error"
  | timeout => "Communication timeout"
  | frame error => "Frame error: " ++ error.message
  | rejected code => "Command failed: " ++ code.reason
  | unknownCommand => "Unknown command"
  | insufficientIdentification got =>
    "Not enough identification data from UPS (" ++ got.repr ++ " bytes)"

end UpsTelemetry
