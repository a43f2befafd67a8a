import UpsTelemetry.Frame.Reply
import UpsTelemetry.Telemetry.PollState
import UpsTelemetry.Telemetry.Scaling

/-!
# The analog frame

The flag and nine counts of two bytes each. The record keeps the counts; `Scaling` says what they
stand for.
-/

namespace UpsTelemetry

/-- What the analog frame says, in counts. -/
structure AnalogReading where
  /-- The flag that opens the frame. The UPS does not always set it here. -/
  flag : DataFlag
  /-- Input voltage, hundredths of a volt. -/
  inputVoltage : UInt16
  /-- Output voltage, hundredths of a volt. -/
  outputVoltage : UInt16
  /-- Output current, hundredths of an ampere. -/
  outputCurrent : UInt16
  /-- Battery voltage, hundredths of a volt. -/
  batteryVoltage : UInt16
  /-- Output frequency, hundredths of a hertz. -/
  outputFrequency : UInt16
  /-- Input frequency, hundredths of a hertz. -/
  inputFrequency : UInt16
  /-- Real power, tens of watts. -/
  realPower : UInt16
  /-- Apparent power, tens of volt-amperes. -/
  apparentPower : UInt16
  /-- Time the battery will last, hundredths of an hour. -/
  backupTime : UInt16
deriving DecidableEq, Repr

namespace AnalogReading

/-! ## Offsets into INFO -/

/-- Where the input voltage stands. -/
def inputVoltageAt : Nat := 2

/-- Where the output voltage stands. -/
def outputVoltageAt : Nat := 14

/-- Where the output current stands. -/
def outputCurrentAt : Nat := 26

/-- Where the battery voltage stands. -/
def batteryVoltageAt : Nat := 38

/-- Where the output frequency stands. -/
def outputFrequencyAt : Nat := 42

/-- Where the input frequency stands. -/
def inputFrequencyAt : Nat := 54

/-- Where the real power stands. -/
def realPowerAt : Nat := 66

/-- Where the apparent power stands. -/
def apparentPowerAt : Nat := 70

/-- Where the backup time stands. -/
def backupTimeAt : Nat := 82

/-! ## Reading -/

/-- Reads the measurements out of a reply. -/
def ofReply (reply : Reply) : Except FrameError AnalogReading := do
  let flag ← reply.byte DataFlag.offset
  let inputVoltage ← reply.word inputVoltageAt
  let outputVoltage ← reply.word outputVoltageAt
  let outputCurrent ← reply.word outputCurrentAt
  let batteryVoltage ← reply.word batteryVoltageAt
  let outputFrequency ← reply.word outputFrequencyAt
  let inputFrequency ← reply.word inputFrequencyAt
  let realPower ← reply.word realPowerAt
  let apparentPower ← reply.word apparentPowerAt
  let backupTime ← reply.word backupTimeAt
  return {
    flag := ⟨flag⟩, inputVoltage, outputVoltage, outputCurrent, batteryVoltage, outputFrequency,
    inputFrequency, realPower, apparentPower, backupTime }

/-- The input voltage in whole volts, truncated. -/
def inputVolts (reading : AnalogReading) : Nat :=
  Scaling.hundredths.whole reading.inputVoltage

end AnalogReading

end UpsTelemetry
