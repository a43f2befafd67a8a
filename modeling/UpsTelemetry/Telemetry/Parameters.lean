import UpsTelemetry.Frame.Reply

/-!
# The system parameter frame

Five fields of two bytes each. The two limits of the bypass are switches: one is on exactly if its
field holds the number one.
-/

namespace UpsTelemetry

/-- What the system parameter frame says. -/
structure SystemParameters where
  /-- Nominal output voltage, volts. -/
  nominalVoltage : UInt16
  /-- Nominal output frequency, hertz. -/
  nominalFrequency : UInt16
  /-- Whether the bypass has an upper limit. -/
  bypassHighEnabled : Bool
  /-- Whether the bypass has a lower limit. -/
  bypassLowEnabled : Bool
  /-- Time between battery tests, in spans of three months. -/
  testInterval : UInt16
deriving DecidableEq, Repr

namespace SystemParameters

/-! ## Offsets into INFO -/

/-- Where the nominal voltage stands. -/
def nominalVoltageAt : Nat := 18

/-- Where the nominal frequency stands. -/
def nominalFrequencyAt : Nat := 22

/-- Where the switch of the upper limit stands. -/
def bypassHighAt : Nat := 34

/-- Where the switch of the lower limit stands. -/
def bypassLowAt : Nat := 38

/-- Where the time between battery tests stands. -/
def testIntervalAt : Nat := 78

/-! ## Reading -/

/-- Reads the system parameters out of a reply. -/
def ofReply (reply : Reply) : Except FrameError SystemParameters := do
  let nominalVoltage ← reply.word nominalVoltageAt
  let nominalFrequency ← reply.word nominalFrequencyAt
  let bypassHigh ← reply.word bypassHighAt
  let bypassLow ← reply.word bypassLowAt
  let testInterval ← reply.word testIntervalAt
  return {
    nominalVoltage, nominalFrequency
    bypassHighEnabled := bypassHigh == 1
    bypassLowEnabled := bypassLow == 1
    testInterval }

end SystemParameters

end UpsTelemetry
