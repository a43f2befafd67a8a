import UpsTelemetry.Frame.Basic
import UpsTelemetry.Link.Uart

/-!
# A simulated UPS

A UART with a UPS behind it, for trying out a driver. The UPS answers frame by frame: each
write releases the oldest of the replies that were prepared for it and throws away what was left
unread of the one before. With no reply prepared, a write changes nothing that can be read.

Its memory is small: 1024 bytes written, 256 bytes to read, eight replies of 256 bytes. What does
not fit is refused whole. Reading and writing can be made to fail.

* `reply`: an intact frame from the UPS; `infoWith`: an INFO with some fields filled in.
* `Action`, `act`: everything that can be done to it.
-/

namespace UpsTelemetry

/-! ## Replies -/

namespace SimulatedUps

/-- The header of a reply: version `21`, address `01`, kind of device, return code. -/
def replyHeader (returnCode : UInt8) : Bytes :=
  [0x32, 0x31, 0x30, 0x31, 0x32, 0x41] ++ Hex.ofByte returnCode

/-- The intact frame with a return code and an INFO. -/
def reply (returnCode : UInt8) (info : Bytes) : Bytes :=
  Frame.sealed (replyHeader returnCode) info

/-- An INFO with one field written over it. -/
def place (offset : Nat) (field info : Bytes) : Bytes :=
  info.take offset ++ field ++ info.drop (offset + field.length)

/-- An INFO of `length` zeros with fields written over it one after the other. -/
def infoWith (length : Nat) (fields : List (Nat × Bytes)) : Bytes :=
  fields.foldl (fun info field => place field.1 field.2 info) (List.replicate length 0x30)

end SimulatedUps

/-! ## Faults -/

/-- Why a simulated UPS refuses an action. -/
inductive SimulatedFault
  /-- Its memory is too small. -/
  | overflow
  /-- It was told to fail. -/
  | simulated
  /-- There is nothing to read. -/
  | wouldBlock
deriving DecidableEq, Repr

namespace SimulatedFault

/-- The wording of each fault. -/
def message : SimulatedFault → String
  | overflow => "Mock buffer overflow"
  | simulated => "Simulated serial error"
  | wouldBlock => "No data available"

instance : Fault SimulatedFault where
  kind
    | overflow => .outOfMemory
    | simulated => .brokenPipe
    | wouldBlock => .other

end SimulatedFault

/-! ## The UART -/

/-- A UART with a UPS behind it. -/
structure SimulatedUps where
  /-- The bytes written since they were last cleared. -/
  written : Bytes := []
  /-- The number of writes since then. -/
  writes : Nat := 0
  /-- The bytes that can be read. -/
  unread : Bytes := []
  /-- The replies that writes will release, the oldest first. -/
  replies : List Bytes := []
  /-- Whether writing and flushing fail. -/
  writeFails : Bool := false
  /-- Whether reading fails. -/
  readFails : Bool := false
deriving DecidableEq, Repr

namespace SimulatedUps

/-- How many written bytes are kept. -/
def writtenCapacity : Nat := 1024

/-- How many bytes can wait to be read. -/
def readCapacity : Nat := 256

/-- How many replies can be prepared. -/
def replyCapacity : Nat := 8

/-- Makes bytes readable, in place of those that were. If they do not fit, nothing is readable. -/
def setUnread (bytes : Bytes) (ups : SimulatedUps) : Except SimulatedFault Unit × SimulatedUps :=
  if bytes.length ≤ readCapacity then (.ok (), { ups with unread := bytes })
  else (.error .overflow, { ups with unread := [] })

/-- Prepares a reply. An empty one is a UPS that stays silent. -/
def prepare (reply : Bytes) (ups : SimulatedUps) : Except SimulatedFault Unit × SimulatedUps :=
  if reply.length ≤ readCapacity ∧ ups.replies.length < replyCapacity then
    (.ok (), { ups with replies := ups.replies ++ [reply] })
  else (.error .overflow, ups)

/-- The UPS after a write, which releases a reply. -/
def release (ups : SimulatedUps) : SimulatedUps :=
  match ups.replies with
  | [] => ups
  | reply :: replies => { ups with unread := reply, replies }

/-- Writes bytes, all or none. -/
def write (bytes : Bytes) (ups : SimulatedUps) : Except SimulatedFault Nat × SimulatedUps :=
  if ups.writeFails then (.error .simulated, ups)
  else if writtenCapacity < ups.written.length + bytes.length then (.error .overflow, ups)
  else
    let ups' := { ups with written := ups.written ++ bytes, writes := ups.writes + 1 }
    (.ok bytes.length, ups'.release)

/-- Pushes out what was written. -/
def flush (ups : SimulatedUps) : Except SimulatedFault Unit × SimulatedUps :=
  if ups.writeFails then (.error .simulated, ups) else (.ok (), ups)

/-- Reads at most `room` bytes. -/
def read (room : Nat) (ups : SimulatedUps) : Except SimulatedFault Bytes × SimulatedUps :=
  if ups.readFails then (.error .simulated, ups)
  else if ups.unread = [] then (.error .wouldBlock, ups)
  else (.ok (ups.unread.take room), { ups with unread := ups.unread.drop room })

/-- Whether there is something to read. -/
def readReady (ups : SimulatedUps) : Bool :=
  !ups.unread.isEmpty

/-- Forgets what was written. -/
def clearWritten (ups : SimulatedUps) : SimulatedUps :=
  { ups with written := [], writes := 0 }

instance : Uart SimulatedUps SimulatedFault where
  read := read
  readReady ups := (.ok ups.readReady, ups)
  write := write
  flush := flush
  length_read_le := by
    intro room ups chunk came
    unfold read at came
    split at came <;> try split at came
    all_goals simp_all
    subst came
    simp only [List.length_take]; omega
  write_le := by
    intro bytes ups count accepted
    unfold write at accepted
    split at accepted <;> try split at accepted
    all_goals simp_all
  write_pos := by
    intro byte rest ups count accepted
    unfold write at accepted
    split at accepted <;> try split at accepted
    all_goals simp_all
    omega

/-- A read that brings bytes leaves fewer unread. -/
theorem length_unread_read_lt {room : Nat} {ups : SimulatedUps} {byte : UInt8} {chunk : Bytes}
    (came : (read room ups).1 = .ok (byte :: chunk)) :
    (read room ups).2.unread.length < ups.unread.length := by
  unfold read at came ⊢
  split at came <;> try split at came
  all_goals simp_all
  have taken := congrArg List.length came
  simp only [List.length_take, List.length_cons] at taken
  omega

instance : FiniteInput SimulatedUps where
  backlog ups := ups.unread.length
  backlog_read_lt := length_unread_read_lt
  backlog_readReady_le := Nat.le_refl _

/-! ## Actions -/

/-- Something that can be done to a simulated UPS. -/
inductive Action
  /-- Make bytes readable. -/
  | setUnread (bytes : Bytes)
  /-- Prepare a reply. -/
  | prepare (reply : Bytes)
  /-- Write bytes. -/
  | write (bytes : Bytes)
  /-- Push out what was written. -/
  | flush
  /-- Read at most `room` bytes. -/
  | read (room : Nat)
  /-- Ask whether there is something to read. -/
  | readReady
  /-- Make writing and flushing fail, or work again. -/
  | setWriteFails (fails : Bool)
  /-- Make reading fail, or work again. -/
  | setReadFails (fails : Bool)
  /-- Forget what was written. -/
  | clearWritten
deriving DecidableEq, Repr

/-- What an action yields. -/
inductive Answer
  /-- It was done. -/
  | done
  /-- This many bytes were written. -/
  | wrote (count : Nat)
  /-- These bytes were read. -/
  | read (bytes : Bytes)
  /-- There is something to read, or there is not. -/
  | ready (value : Bool)
deriving DecidableEq, Repr

/-- Does an action. -/
def act (action : Action) (ups : SimulatedUps) : Except SimulatedFault Answer × SimulatedUps :=
  match action with
  | .setUnread bytes =>
    let (outcome, ups') := ups.setUnread bytes
    (outcome.map fun _ => .done, ups')
  | .prepare reply =>
    let (outcome, ups') := ups.prepare reply
    (outcome.map fun _ => .done, ups')
  | .write bytes =>
    let (outcome, ups') := ups.write bytes
    (outcome.map .wrote, ups')
  | .flush =>
    let (outcome, ups') := ups.flush
    (outcome.map fun _ => .done, ups')
  | .read room =>
    let (outcome, ups') := ups.read room
    (outcome.map .read, ups')
  | .readReady => (.ok (.ready ups.readReady), ups)
  | .setWriteFails fails => (.ok .done, { ups with writeFails := fails })
  | .setReadFails fails => (.ok .done, { ups with readFails := fails })
  | .clearWritten => (.ok .done, ups.clearWritten)

end SimulatedUps

end UpsTelemetry
