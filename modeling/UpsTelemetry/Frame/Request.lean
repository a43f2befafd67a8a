import UpsTelemetry.Frame.Address
import UpsTelemetry.Frame.Basic
import UpsTelemetry.Frame.Command
import UpsTelemetry.Frame.Error

/-!
# Requests

A request is a frame whose header is the protocol version, the address of the device and the code
of the command. It is built only if its payload can be announced by a LENGTH field and the whole
frame fits the room set aside for it.

* `request?_eq_ok_iff`: when a request is built, and as which bytes; `request?_of_fits`: that it is,
  if it is short enough for the room.
-/

namespace UpsTelemetry

/-- A protocol version: the two characters that a frame carries for it. -/
structure Version where
  /-- The first character. -/
  major : UInt8
  /-- The second character. -/
  minor : UInt8
deriving DecidableEq, Repr

namespace Version

/-- The version that every request of the driver carries: `21`. -/
def current : Version := ⟨0x32, 0x31⟩

/-- The two characters as they are sent. -/
def bytes (version : Version) : Bytes :=
  [version.major, version.minor]

end Version

namespace Frame

/-- The room set aside for a request. No request of the driver has more than four characters of
payload. -/
def requestCapacity : Nat := 32

/-- The header of a request: VER, ADR and CID. -/
def requestHeader (command : Command) (version : Version) (address : Address) : Bytes :=
  version.bytes ++ address.bytes ++ command.code

/-- The request frame for a command, if it fits `capacity` bytes. -/
def request? (capacity : Nat) (command : Command) (version : Version) (address : Address)
    (payload : Bytes) : Except FrameError Bytes :=
  if payload.length ≤ maxInfoLength.toNat ∧ payload.length + overhead ≤ capacity then
    .ok (sealed (requestHeader command version address) payload)
  else
    .error .overflow

/-- A request is built exactly if LENGTH can announce the payload and there is room for the frame,
and then it is the sealed frame. -/
theorem request?_eq_ok_iff {capacity : Nat} {command : Command} {version : Version}
    {address : Address} {payload frame : Bytes} :
    request? capacity command version address payload = .ok frame ↔
      (payload.length ≤ maxInfoLength.toNat ∧ payload.length + overhead ≤ capacity) ∧
        sealed (requestHeader command version address) payload = frame := by
  unfold request?
  split
  · next fits => simp [fits]
  · next tooLong => simp only [reduceCtorEq, tooLong, false_and]

/-- A request of the driver is built if its payload leaves room for the rest of the frame. -/
theorem request?_of_fits {command : Command} {version : Version} {address : Address}
    {payload : Bytes} (fits : payload.length + overhead ≤ requestCapacity) :
    request? requestCapacity command version address payload =
      .ok (sealed (requestHeader command version address) payload) :=
  request?_eq_ok_iff.2
    ⟨⟨Nat.le_trans (Nat.le_of_add_right_le fits) (by decide), fits⟩, rfl⟩

end Frame

end UpsTelemetry
