import UpsTelemetry.Link.Buffer
import UpsTelemetry.Link.Fault

/-!
# Links

A link gives the driver request and response access to one UPS: throw away what is waiting, send a
frame, receive what comes back. Every operation may fail, and a failed one may still have changed
the link, or the buffer it was receiving into.

Nothing is promised about the count that `receive` reports, nor about the bytes it leaves in the
buffer. The driver has to stand any of them.
-/

namespace UpsTelemetry

/-- Request and response access to a UPS, with faults of type `ε`. -/
class Link (τ : Type) (ε : outParam Type) where
  /-- Throws away what was received before, so that it is not taken for the next reply. -/
  flushInput : τ → Except ε Unit × τ
  /-- Sends a whole frame and reports the number of bytes written. Zero means that the time ran
  out. -/
  send : Bytes → τ → Except ε Nat × τ
  /-- Receives into a buffer, waiting at most the given number of milliseconds, and reports the
  number of bytes received. Zero means that nothing came in time. -/
  receive : {size : Nat} → ReceiveBuffer size → (timeoutMillis : Nat) → τ →
    Except ε Nat × ReceiveBuffer size × τ

end UpsTelemetry
