import UpsTelemetry.Bytes
import UpsTelemetry.Link.Fault

/-!
# UARTs

A UART is the host's end of a serial line. It moves bytes and knows nothing of frames: it reads into
a given room, tells whether a read would find something, takes bytes to write, and flushes. A write
may take any part of what it is offered, but not nothing (`Uart.writeAll`).

* `Uart`: what every UART does. Sending and receiving need no more than this.
* `FiniteInput`: a UART with a measure of what waits in it. Reading uses it up and asking does not
  add to it, so throwing away all input comes to an end. What is written may well bring new input.
-/

namespace UpsTelemetry

/-- The host's end of a serial line, with faults of type `ε`. -/
class Uart (υ : Type) (ε : outParam Type) where
  /-- Reads at most `room` bytes. -/
  read : (room : Nat) → υ → Except ε Bytes × υ
  /-- Whether a read would find something. -/
  readReady : υ → Except ε Bool × υ
  /-- Offers bytes to write and says how many were accepted. -/
  write : Bytes → υ → Except ε Nat × υ
  /-- Pushes out what was written. -/
  flush : υ → Except ε Unit × υ
  /-- A read stays inside the room it was given. -/
  length_read_le : ∀ {room : Nat} {uart : υ} {chunk : Bytes},
    (read room uart).1 = .ok chunk → chunk.length ≤ room
  /-- A write accepts at most what it is offered. -/
  write_le : ∀ {bytes : Bytes} {uart : υ} {count : Nat},
    (write bytes uart).1 = .ok count → count ≤ bytes.length
  /-- A write accepts something, if it is offered something. -/
  write_pos : ∀ {byte : UInt8} {rest : Bytes} {uart : υ} {count : Nat},
    (write (byte :: rest) uart).1 = .ok count → 0 < count

/-- A UART whose input comes to an end, if nothing is written in between. -/
class FiniteInput (υ : Type) {ε : outParam Type} [Uart υ ε] where
  /-- A measure of the input that is waiting. -/
  backlog : υ → Nat
  /-- A read that brings bytes uses up input. -/
  backlog_read_lt : ∀ {room : Nat} {uart : υ} {byte : UInt8} {chunk : Bytes},
    (Uart.read room uart).1 = .ok (byte :: chunk) → backlog (Uart.read room uart).2 < backlog uart
  /-- Asking whether there is input does not bring any. -/
  backlog_readReady_le : ∀ {uart : υ}, backlog (Uart.readReady uart).2 ≤ backlog uart

namespace Uart

variable {υ ε : Type} [Uart υ ε]

/-- Writes all of the bytes, offering the rest again after each partial write, up to the first
fault. Nothing is written for no bytes. -/
def writeAll (bytes : Bytes) (uart : υ) : Except ε Unit × υ :=
  match bytes with
  | [] => (.ok (), uart)
  | byte :: rest =>
    match _offered : write (byte :: rest) uart with
    | (.error fault, uart') => (.error fault, uart')
    | (.ok count, uart') => writeAll ((byte :: rest).drop count) uart'
termination_by bytes.length
decreasing_by
  have accepted : (write (byte :: rest) uart).1 = .ok count := by rw [_offered]
  have := write_pos accepted
  simp only [List.length_drop, List.length_cons]
  omega

end Uart

end UpsTelemetry
