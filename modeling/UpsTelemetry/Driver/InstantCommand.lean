import UpsTelemetry.Text.Hex

/-!
# Instant commands

The commands that a host may have carried out at once. The host names them; upper and lower case of
ASCII letters are the same in a name.
-/

namespace UpsTelemetry

/-- A command that a host may have carried out at once. -/
inductive InstantCommand
  /-- Start a test of the battery. -/
  | startBatteryTest
  /-- Stop the test of the battery. -/
  | stopBatteryTest
  /-- Switch the load on. -/
  | loadOn
  /-- Switch the load off. -/
  | loadOff
deriving DecidableEq, Repr

namespace InstantCommand

/-- Every command. -/
def all : List InstantCommand := [startBatteryTest, stopBatteryTest, loadOn, loadOff]

/-- The name of a command, in lower case. -/
def name : InstantCommand → String
  | startBatteryTest => "test.battery.start"
  | stopBatteryTest => "test.battery.stop"
  | loadOn => "load.on"
  | loadOff => "load.off"

/-- The number by which the UPS knows a command. -/
def code : InstantCommand → UInt16
  | startBatteryTest => 0x1002
  | stopBatteryTest => 0x1003
  | loadOn => 0x2001
  | loadOff => 0x2003

/-- The INFO of the frame that carries a command: four hexadecimal digits. -/
def payload (command : InstantCommand) : Bytes :=
  Hex.ofWord command.code

/-- Whether two texts are the same but for the case of ASCII letters. -/
def sameName (first second : String) : Bool :=
  first.toList.map Char.toLower == second.toList.map Char.toLower

/-- The command of a name, in any case of its letters. -/
def ofName? (name : String) : Option InstantCommand :=
  all.find? (fun command => sameName name command.name)

end InstantCommand

/-- What became of an instant command. -/
inductive CommandOutcome
  /-- The UPS acknowledged it. -/
  | handled
  /-- The UPS did not acknowledge it. It may have carried it out all the same. -/
  | failed
  /-- There is no such command, and the UPS was not asked. -/
  | unknown
deriving DecidableEq, Repr

end UpsTelemetry
