import UpsTelemetry.Link.Uart

/-!
# A UART that follows a script

A script says in advance how every call of a UART comes out, so it can play any UART there is: input
in pieces of any size, reads of nothing, faults of any kind at any point, writes accepted in part.
Where the script says nothing, all is well and input is what the script has released so far.

Flushing releases the next reply of the script.
-/

namespace UpsTelemetry

/-- What one read of a scripted UART meets. -/
inductive InputEvent
  /-- These bytes are there. A read with less room leaves the rest. -/
  | chunk (bytes : Bytes)
  /-- The read brings nothing. -/
  | nothing
  /-- The read fails. -/
  | fail (kind : FaultKind)
deriving DecidableEq, Repr

/-- The number of bytes in an input event. -/
def InputEvent.size : InputEvent → Nat
  | chunk bytes => bytes.length
  | nothing => 0
  | fail _ => 0

/-- What one write of a scripted UART does. -/
inductive WriteEvent
  /-- The write accepts up to `more + 1` bytes. -/
  | acceptUpTo (more : Nat)
  /-- The write fails. -/
  | fail (kind : FaultKind)
deriving DecidableEq, Repr

/-- A UART and the rest of its script. -/
structure ScriptedUart where
  /-- What reads will meet, the next one first. -/
  input : List InputEvent := []
  /-- The replies that flushing will release. -/
  replies : List (List InputEvent) := []
  /-- What writes will do. -/
  writes : List WriteEvent := []
  /-- How flushes will fail, where they do. -/
  flushes : List (Option FaultKind) := []
  /-- How questions for input will fail, where they do. -/
  readies : List (Option FaultKind) := []
  /-- The bytes accepted so far. -/
  written : Bytes := []
deriving DecidableEq, Repr

namespace ScriptedUart

/-- The number of bytes that wait to be read. -/
def waiting (uart : ScriptedUart) : Nat :=
  uart.input.foldr (fun event total => event.size + total) 0

/-- Reads at most `room` bytes. With the input at an end there is nothing to wait for. -/
def read (room : Nat) (uart : ScriptedUart) : Except FaultKind Bytes × ScriptedUart :=
  match uart.input with
  | [] => (.error .other, uart)
  | .nothing :: rest => (.ok [], { uart with input := rest })
  | .fail kind :: rest => (.error kind, { uart with input := rest })
  | .chunk bytes :: rest =>
    let input := if bytes.length ≤ room then rest else .chunk (bytes.drop room) :: rest
    (.ok (bytes.take room), { uart with input })

/-- Whether a read would meet an event. -/
def readReady (uart : ScriptedUart) : Except FaultKind Bool × ScriptedUart :=
  match uart.readies with
  | [] => (.ok (!uart.input.isEmpty), uart)
  | none :: readies => (.ok (!uart.input.isEmpty), { uart with readies })
  | some kind :: readies => (.error kind, { uart with readies })

/-- The UART after it accepted some bytes. -/
def take (bytes : Bytes) (uart : ScriptedUart) : ScriptedUart :=
  { uart with written := uart.written ++ bytes }

/-- Offers bytes to write. -/
def write (bytes : Bytes) (uart : ScriptedUart) : Except FaultKind Nat × ScriptedUart :=
  match uart.writes with
  | [] => (.ok bytes.length, uart.take bytes)
  | .fail kind :: writes => (.error kind, { uart with writes })
  | .acceptUpTo more :: writes =>
    let count := min (more + 1) bytes.length
    (.ok count, { uart with writes }.take (bytes.take count))

/-- The UART after it released its next reply. -/
def release (uart : ScriptedUart) : ScriptedUart :=
  match uart.replies with
  | [] => uart
  | reply :: replies => { uart with input := uart.input ++ reply, replies }

/-- Pushes out what was written, and releases a reply. -/
def flush (uart : ScriptedUart) : Except FaultKind Unit × ScriptedUart :=
  match uart.flushes with
  | [] => (.ok (), uart.release)
  | none :: flushes => (.ok (), { uart with flushes }.release)
  | some kind :: flushes => (.error kind, { uart with flushes })

instance : Uart ScriptedUart FaultKind where
  read := read
  readReady := readReady
  write := write
  flush := flush
  length_read_le := by
    intro room uart chunk came
    unfold read at came
    split at came <;> simp_all
    subst came
    simp only [List.length_take]; omega
  write_le := by
    intro bytes uart count accepted
    unfold write at accepted
    split at accepted <;> simp_all
    omega
  write_pos := by
    intro byte rest uart count accepted
    unfold write at accepted
    split at accepted <;> simp_all <;> omega

/-- A read that brings bytes leaves fewer waiting. -/
theorem waiting_read_lt {room : Nat} {uart : ScriptedUart} {byte : UInt8} {chunk : Bytes}
    (came : (read room uart).1 = .ok (byte :: chunk)) :
    (read room uart).2.waiting < uart.waiting := by
  unfold read at came ⊢
  split at came <;> simp_all [waiting]
  next bytes rest hinput =>
    have taken := congrArg List.length came
    simp only [List.length_take, List.length_cons] at taken
    split <;> simp [InputEvent.size] <;> omega

/-- What the UART claims about its input does not change it. -/
theorem waiting_readReady (uart : ScriptedUart) : (readReady uart).2.waiting = uart.waiting := by
  unfold readReady
  split <;> simp [waiting]

instance : FiniteInput ScriptedUart where
  backlog := waiting
  backlog_read_lt := waiting_read_lt
  backlog_readReady_le := Nat.le_of_eq (waiting_readReady _)

end ScriptedUart

end UpsTelemetry
