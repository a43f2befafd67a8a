import UpsTelemetry.Proofs.Frame.Guarded
import UpsTelemetry.Telemetry.Report

/-!
# Reports by guarded accesses

The readers of telemetry frames once more, by guarded accesses. Such a reader may fail, or the
program may stop. `ComesTo` says that it does not stop, and what the reader comes to; readers put
together by `do` come to what their parts come to (`ComesTo.bind`).

* `Guarded.info_comesTo`: a field is asked for before it is cut, so reading it stops nothing.
* `Guarded.report_comesTo`: no report needs an access out of range, whatever was received.
-/

namespace UpsTelemetry

namespace Guarded

open UpsTelemetry.Frame (headerLength)

/-- A reader of frames in which an access out of range stops the program. -/
abbrev Reader (α : Type) : Type := ExceptT FrameError Guarded α

variable {α β : Type}

/-- The reader stops at no access, and comes to the given outcome. -/
def ComesTo (reader : Reader α) (outcome : Except FrameError α) : Prop :=
  reader.run = some outcome

namespace ComesTo

/-- A value that is there stops nothing. -/
theorem pure (value : α) : ComesTo (Pure.pure value) (.ok value) := rfl

/-- Readers that come to their outcomes do so one after the other. -/
theorem bind {reader : Reader α} {outcome : Except FrameError α} {next : α → Reader β}
    {next' : α → Except FrameError β} (comes : ComesTo reader outcome)
    (goesOn : ∀ value, ComesTo (next value) (next' value)) :
    ComesTo (reader >>= next) (outcome >>= next') := by
  unfold ComesTo at comes ⊢
  rw [ExceptT.run_bind, comes, Option.bind_eq_bind, Option.bind_some]
  cases outcome with
  | error error => rfl
  | ok value => exact goesOn value

/-- So does what is made of them. -/
theorem map {reader : Reader α} {outcome : Except FrameError α} (comes : ComesTo reader outcome)
    (f : α → β) : ComesTo (f <$> reader) (outcome.map f) := by
  unfold ComesTo at comes ⊢
  rw [ExceptT.run_map, comes]
  rfl

end ComesTo

/-! ## Fields -/

/-- The `width` characters at `offset` into INFO. -/
def info (reply : Reply) (offset width : Nat) : Reader Bytes := do
  match ← ExceptT.lift (cut reply.raw (headerLength + offset) width) with
  | some field => return field
  | none => throw (.fieldOutOfRange offset)

/-- The one-byte field at `offset` into INFO. -/
def byte (reply : Reply) (offset : Nat) : Reader UInt8 :=
  Hex.leadingByte <$> info reply offset 2

/-- The two-byte field at `offset` into INFO. -/
def word (reply : Reply) (offset : Nat) : Reader UInt16 :=
  Hex.leadingWord <$> info reply offset 4

/-- The text in the `width` characters at `offset` into INFO, at most `room` characters of it. -/
def text (reply : Reply) (offset width room : Nat) : Reader String :=
  Padded.text room <$> info reply offset width

variable (reply : Reply)

/-- Reading a field never goes past the end of a reply. -/
theorem info_comesTo (offset width : Nat) :
    ComesTo (info reply offset width) (reply.info offset width) := by
  unfold ComesTo info Reply.info
  rw [ExceptT.run_bind, ExceptT.run_lift, cut_eq]
  cases reply.raw.slice? (headerLength + offset) width <;> rfl

/-- Neither does reading a byte. -/
theorem byte_comesTo (offset : Nat) : ComesTo (byte reply offset) (reply.byte offset) :=
  (info_comesTo reply offset 2).map Hex.leadingByte

/-- Neither does reading a word. -/
theorem word_comesTo (offset : Nat) : ComesTo (word reply offset) (reply.word offset) :=
  (info_comesTo reply offset 4).map Hex.leadingWord

/-- Neither does reading a text. -/
theorem text_comesTo (offset width room : Nat) :
    ComesTo (text reply offset width room) (reply.text offset width room) :=
  (info_comesTo reply offset width).map (Padded.text room)

/-! ## Records -/

section

open OnOffStatus

/-- Reads the on/off status out of a reply. -/
def onOffStatus : Reader OnOffStatus := do
  let flag ← byte reply DataFlag.offset
  let supply ← byte reply supplyAt
  let rectifier ← byte reply rectifierAt
  let charger ← byte reply chargerAt
  let batteryTest ← byte reply batteryTestAt
  return {
    flag := ⟨flag⟩
    path := PowerPath.ofCodes? supply rectifier
    charger := Charger.ofCode? charger
    batteryTest := BatteryTest.ofCode? batteryTest }

/-- The on/off record is read without leaving the reply. -/
theorem onOffStatus_comesTo : ComesTo (onOffStatus reply) (ofReply reply) :=
  (byte_comesTo reply _).bind fun _ => (byte_comesTo reply _).bind fun _ =>
    (byte_comesTo reply _).bind fun _ => (byte_comesTo reply _).bind fun _ =>
      (byte_comesTo reply _).bind fun _ => .pure _

end

section

open AnalogReading

/-- Reads the measurements out of a reply. -/
def analogReading : Reader AnalogReading := do
  let flag ← byte reply DataFlag.offset
  let inputVoltage ← word reply inputVoltageAt
  let outputVoltage ← word reply outputVoltageAt
  let outputCurrent ← word reply outputCurrentAt
  let batteryVoltage ← word reply batteryVoltageAt
  let outputFrequency ← word reply outputFrequencyAt
  let inputFrequency ← word reply inputFrequencyAt
  let realPower ← word reply realPowerAt
  let apparentPower ← word reply apparentPowerAt
  let backupTime ← word reply backupTimeAt
  return {
    flag := ⟨flag⟩, inputVoltage, outputVoltage, outputCurrent, batteryVoltage, outputFrequency,
    inputFrequency, realPower, apparentPower, backupTime }

/-- So is the analog record. -/
theorem analogReading_comesTo : ComesTo (analogReading reply) (ofReply reply) :=
  (byte_comesTo reply _).bind fun _ => (word_comesTo reply _).bind fun _ =>
    (word_comesTo reply _).bind fun _ => (word_comesTo reply _).bind fun _ =>
      (word_comesTo reply _).bind fun _ => (word_comesTo reply _).bind fun _ =>
        (word_comesTo reply _).bind fun _ => (word_comesTo reply _).bind fun _ =>
          (word_comesTo reply _).bind fun _ => (word_comesTo reply _).bind fun _ => .pure _

end

section

open SystemParameters

/-- Reads the system parameters out of a reply. -/
def systemParameters : Reader SystemParameters := do
  let nominalVoltage ← word reply nominalVoltageAt
  let nominalFrequency ← word reply nominalFrequencyAt
  let bypassHigh ← word reply bypassHighAt
  let bypassLow ← word reply bypassLowAt
  let testInterval ← word reply testIntervalAt
  return {
    nominalVoltage, nominalFrequency
    bypassHighEnabled := bypassHigh == 1
    bypassLowEnabled := bypassLow == 1
    testInterval }

/-- So is the record of the parameters. -/
theorem systemParameters_comesTo : ComesTo (systemParameters reply) (ofReply reply) :=
  (word_comesTo reply _).bind fun _ => (word_comesTo reply _).bind fun _ =>
    (word_comesTo reply _).bind fun _ => (word_comesTo reply _).bind fun _ =>
      (word_comesTo reply _).bind fun _ => .pure _

end

section

open Warnings

/-- The active ones among the warnings of `rest`, which stand at `position` and after it. -/
def warningsFrom (position : Nat) : List (Option String) → Reader (List String)
  | [] => return []
  | none :: rest => warningsFrom (position + 1) rest
  | some name :: rest => do
    let field ← byte reply (offset position)
    let others ← warningsFrom (position + 1) rest
    return if isActive field then name :: others else others

/-- So are the warnings, position by position. -/
theorem warningsFrom_comesTo (position : Nat) (rest : List (Option String)) :
    ComesTo (warningsFrom reply position rest) (activeFrom reply position rest) := by
  induction rest generalizing position with
  | nil => exact .pure []
  | cons entry rest ih =>
    cases entry with
    | none => exact ih (position + 1)
    | some name =>
      exact (byte_comesTo reply _).bind fun _ => (ih (position + 1)).bind fun _ => .pure _

end

/-! ## Reports -/

/-- The report that a reply gives rise to in a poll state, for a host with the given committed
status. -/
def report (state : PollState) (hasStatus : String → Bool) : Reader Report :=
  match state with
  | .onOff => OnOffStatus.report <$> onOffStatus reply
  | .analog => (·.report hasStatus) <$> analogReading reply
  | .warning => Warnings.report <$> warningsFrom reply 0 Warnings.table
  | .parameters => SystemParameters.report <$> systemParameters reply

/-- No report needs an access out of range. -/
theorem report_comesTo (state : PollState) (hasStatus : String → Bool) :
    ComesTo (report reply state hasStatus) (Report.ofReply state hasStatus reply) := by
  cases state with
  | onOff => exact (onOffStatus_comesTo reply).map _
  | analog => exact (analogReading_comesTo reply).map _
  | warning => exact (warningsFrom_comesTo reply 0 Warnings.table).map _
  | parameters => exact (systemParameters_comesTo reply).map _

end Guarded

end UpsTelemetry
