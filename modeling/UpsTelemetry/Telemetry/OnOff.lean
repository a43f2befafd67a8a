import UpsTelemetry.Frame.Reply
import UpsTelemetry.Telemetry.PollState
import UpsTelemetry.Telemetry.Power

/-!
# The on/off frame

Five one-byte fields: the flag, the two codes of the power path, the state of the battery and that
of its test. Only a field outside the received bytes makes reading fail; a code without a meaning
leaves its part of the record empty.
-/

namespace UpsTelemetry

/-- What the on/off frame says. -/
structure OnOffStatus where
  /-- The flag that opens the frame. -/
  flag : DataFlag
  /-- The power path, if its codes describe one. -/
  path : Option PowerPath
  /-- The state of the charger, if its code has a meaning. -/
  charger : Option Charger
  /-- The state of the battery test, if its code has a meaning. -/
  batteryTest : Option BatteryTest
deriving DecidableEq, Repr

namespace OnOffStatus

/-! ## Offsets into INFO -/

/-- Where the code of the load's supply stands. -/
def supplyAt : Nat := 2

/-- Where the code of the rectifier's supply stands. -/
def rectifierAt : Nat := 6

/-- Where the state of the battery stands. -/
def chargerAt : Nat := 8

/-- Where the state of the battery test stands. -/
def batteryTestAt : Nat := 10

/-! ## Reading -/

/-- Reads the on/off status out of a reply. -/
def ofReply (reply : Reply) : Except FrameError OnOffStatus := do
  let flag ← reply.byte DataFlag.offset
  let supply ← reply.byte supplyAt
  let rectifier ← reply.byte rectifierAt
  let charger ← reply.byte chargerAt
  let batteryTest ← reply.byte batteryTestAt
  return {
    flag := ⟨flag⟩
    path := PowerPath.ofCodes? supply rectifier
    charger := Charger.ofCode? charger
    batteryTest := BatteryTest.ofCode? batteryTest }

end OnOffStatus

end UpsTelemetry
