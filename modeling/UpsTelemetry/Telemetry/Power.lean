/-!
# Power path and battery

What the on/off frame says about the source of the load's power and about the battery, and the
words for it. The UPS codes each in a byte; a byte without a meaning is left out rather than
guessed at.
-/

namespace UpsTelemetry

/-! ## The power path -/

/-- A token of the host's status word. -/
inductive StatusToken
  /-- The load runs from the mains. -/
  | online
  /-- The load runs from the battery. -/
  | onBattery
  /-- The load is fed around the inverter. -/
  | bypass
deriving DecidableEq, Repr

namespace StatusToken

/-- The token as the host knows it. -/
def name : StatusToken → String
  | online => "OL"
  | onBattery => "OB"
  | bypass => "BYPASS"

/-- Every token. -/
def all : List StatusToken := [online, onBattery, bypass]

end StatusToken

/-- The way power takes to the load. -/
inductive PowerPath
  | online
  | onBattery
  | onBypass
deriving DecidableEq, Repr

namespace PowerPath

/-- The supply code of a load fed by the UPS. -/
def supplyUps : UInt8 := 0x01

/-- The supply code of a load fed around the UPS. -/
def supplyBypass : UInt8 := 0x02

/-- The code of a rectifier that runs from the battery. -/
def rectifierBattery : UInt8 := 0xE2

/-- The power path that the codes of supply and rectifier describe. The rectifier matters only
while the UPS feeds the load. -/
def ofCodes? (supply rectifier : UInt8) : Option PowerPath :=
  if supply = supplyUps then some (if rectifier = rectifierBattery then onBattery else online)
  else if supply = supplyBypass then some onBypass
  else none

/-- The status tokens that describe a power path. -/
def tokens : PowerPath → List StatusToken
  | online => [.online]
  | onBattery => [.onBattery]
  | onBypass => [.online, .bypass]

end PowerPath

/-! ## The battery -/

/-- What the charger does. -/
inductive Charger
  | resting
  | charging
  | discharging
deriving DecidableEq, Repr

namespace Charger

/-- The state that a code describes. Float and boost charge are both charging. -/
def ofCode? (code : UInt8) : Option Charger :=
  if code = 0xE0 then some resting
  else if code = 0xE1 ∨ code = 0xE2 then some charging
  else if code = 0xE3 then some discharging
  else none

/-- The state in words. -/
def text : Charger → String
  | resting => "resting"
  | charging => "charging"
  | discharging => "discharging"

end Charger

/-- Whether the battery tests itself. -/
inductive BatteryTest
  | inProgress
  | idle
deriving DecidableEq, Repr

namespace BatteryTest

/-- The state that a code describes. -/
def ofCode? (code : UInt8) : Option BatteryTest :=
  if code = 0xE0 then some inProgress
  else if code = 0xE1 then some idle
  else none

/-- The state in words. -/
def text : BatteryTest → String
  | inProgress => "In progress"
  | idle => "Idle"

end BatteryTest

end UpsTelemetry
