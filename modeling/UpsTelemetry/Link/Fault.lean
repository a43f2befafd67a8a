/-!
# Faults of a line

A line between driver and UPS has faults of its own: the device may be gone, the call interrupted.
Each line has its own type of them. The driver reports them as they are and looks at one thing
only, the kind.
-/

namespace UpsTelemetry

/-- The kind of a fault, which all lines have in common. -/
inductive FaultKind
  | other
  | notFound
  | permissionDenied
  | connectionRefused
  | connectionReset
  | connectionAborted
  | notConnected
  | addressInUse
  | addressNotAvailable
  | brokenPipe
  | alreadyExists
  | invalidInput
  | invalidData
  | timedOut
  | interrupted
  | unsupported
  | outOfMemory
  | writeZero
deriving DecidableEq, Repr

/-- A type of faults, each of which has a kind. -/
class Fault (ε : Type) where
  /-- The kind of a fault. -/
  kind : ε → FaultKind

instance : Fault FaultKind where
  kind := id

/-- Whether a failed read only says that no more bytes are coming. A read deadline that has passed
is one case; a UART that would have to wait reports the other. -/
def FaultKind.endsData : FaultKind → Bool
  | .other => true
  | .timedOut => true
  | _ => false

end UpsTelemetry
