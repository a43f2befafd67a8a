import UpsTelemetry.Frame.Basic
import UpsTelemetry.Link.Basic
import UpsTelemetry.Link.Uart

/-!
# Links over a UART

A serial line delivers a reply in pieces of any size, and a UART gives no sign of where a frame
ends. The link therefore reads until the end marker has come, the buffer is full, or the UART has
nothing more to give. Bytes behind an end marker belong to no frame of ours and are dropped.

The deadline is the UART's own: its read fails when time has run out. A read that fails this way,
or would have to wait, ends the reply and is no fault of the link.

Sending (`transmit`) and receiving (`collect`) work over any UART. Only throwing away stale input
(`drain`) goes on for as long as there is input, and needs one whose input comes to an end.
-/

namespace UpsTelemetry

/-- A link to the UPS at the other end of a UART. -/
structure SerialLink (υ : Type) where
  /-- The UART. -/
  uart : υ
deriving DecidableEq, Repr

namespace SerialLink

variable {υ ε : Type} [Fault ε] [Uart υ ε]

/-- The room into which stale input is read before it is thrown away. -/
def scratchSize : Nat := 32

/-- Reads and drops input until the UART has none, or claims to have some and then does not. -/
def drain [FiniteInput υ] (uart : υ) : Except ε Unit × υ :=
  match _asked : Uart.readReady uart with
  | (.error fault, uart') => (.error fault, uart')
  | (.ok false, uart') => (.ok (), uart')
  | (.ok true, uart') =>
    match _read : Uart.read scratchSize uart' with
    | (.ok [], uart'') => (.ok (), uart'')
    | (.ok (_ :: _), uart'') => drain uart''
    | (.error fault, uart'') =>
      if (Fault.kind fault).endsData then (.ok (), uart'') else (.error fault, uart'')
termination_by FiniteInput.backlog uart
decreasing_by
  have asked : FiniteInput.backlog (Uart.readReady uart).2 ≤ FiniteInput.backlog uart :=
    FiniteInput.backlog_readReady_le
  have used : FiniteInput.backlog (Uart.read scratchSize uart').2 < FiniteInput.backlog uart' :=
    FiniteInput.backlog_read_lt (by rw [_read])
  rw [_asked] at asked
  rw [_read] at used
  exact Nat.lt_of_lt_of_le used asked

/-- Writes a frame and pushes it out. -/
def transmit (frame : Bytes) (uart : υ) : Except ε Nat × υ :=
  match Uart.writeAll frame uart with
  | (.error fault, uart') => (.error fault, uart')
  | (.ok (), uart') =>
    match Uart.flush uart' with
    | (.error fault, uart'') => (.error fault, uart'')
    | (.ok (), uart'') => (.ok frame.length, uart'')

/-- Reads on after `count` bytes of a reply have been put into the buffer. -/
def collect {size : Nat} (buffer : ReceiveBuffer size) (count : Nat) (uart : υ) :
    Except ε Nat × ReceiveBuffer size × υ :=
  if count < size then
    match Uart.read (size - count) uart with
    | (.ok [], uart') => (.ok count, buffer, uart')
    | (.ok (byte :: rest), uart') =>
      let buffer' := buffer.overwrite count (byte :: rest)
      match (byte :: rest).idxOf? Frame.endMarker with
      | some position => (.ok (count + position + 1), buffer', uart')
      | none => collect buffer' (count + (byte :: rest).length) uart'
    | (.error fault, uart') =>
      if (Fault.kind fault).endsData then (.ok count, buffer, uart')
      else (.error fault, buffer, uart')
  else (.ok count, buffer, uart)
termination_by size - count
decreasing_by simp only [List.length_cons]; omega

instance [FiniteInput υ] : Link (SerialLink υ) ε where
  flushInput link :=
    let (outcome, uart) := drain link.uart
    (outcome, ⟨uart⟩)
  send frame link :=
    let (outcome, uart) := transmit frame link.uart
    (outcome, ⟨uart⟩)
  receive buffer _ link :=
    let (outcome, buffer', uart) := collect buffer 0 link.uart
    (outcome, buffer', ⟨uart⟩)

end SerialLink

end UpsTelemetry
