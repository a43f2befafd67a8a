import UpsTelemetry.Frame.Command

/-!
# The poll cycle's states and the flag that redirects it

A poll step reads one of four telemetry frames; `PollState` names the one to be read next. Two of
the four open with a flag byte (`DataFlag`) in which the UPS says that a warning or a change of
status is waiting, and the cycle jumps to it.
-/

namespace UpsTelemetry

/-- The telemetry frame that the next poll step reads. -/
inductive PollState
  /-- The on/off status. -/
  | onOff
  /-- The analog measurements. -/
  | analog
  /-- The active warnings. -/
  | warning
  /-- The system parameters: read first of all, and again after every command. -/
  | parameters
deriving DecidableEq, Repr, Inhabited

namespace PollState

/-- The name of a state. -/
def name : PollState → String
  | onOff => "ONOFF"
  | analog => "ANALOG"
  | warning => "WARNING"
  | parameters => "SYSPARAM"

/-- The state every cycle begins in. -/
def initial : PollState := parameters

/-- The frame that a state asks for. -/
def command : PollState → Command
  | onOff => .readOnOff
  | analog => .readAnalog
  | warning => .readWarnings
  | parameters => .readParameters

/-- The shortest INFO that answers a state's request, in characters. -/
def minimumInfo : PollState → Nat
  | onOff => 20
  | analog => 86
  | warning => 54
  | parameters => 106

end PollState

/-- The byte that opens the on/off and the analog frame. Bit 0 and bit 4 have a meaning; the others
are kept as they come. -/
structure DataFlag where
  /-- The byte as it was sent. -/
  byte : UInt8
deriving DecidableEq, Repr

namespace DataFlag

/-- Where the flag stands in INFO. -/
def offset : Nat := 0

/-- The bit that reports a waiting warning. -/
def warningBit : UInt8 := 0x01

/-- The bit that reports a change of the on/off status. -/
def onOffBit : UInt8 := 0x10

/-- A warning was raised since warnings were last read. -/
def warningPending (flag : DataFlag) : Bool :=
  flag.byte &&& warningBit != 0

/-- The on/off status changed since it was last read. -/
def onOffChanged (flag : DataFlag) : Bool :=
  flag.byte &&& onOffBit != 0

/-- A byte with the bits of `mask` all set or all cleared. -/
def assign (byte mask : UInt8) (value : Bool) : UInt8 :=
  if value then byte ||| mask else byte &&& ~~~mask

/-- The flag with its warning bit set to `value`. -/
def withWarningPending (flag : DataFlag) (value : Bool) : DataFlag :=
  ⟨assign flag.byte warningBit value⟩

/-- The flag with its on/off bit set to `value`. -/
def withOnOffChanged (flag : DataFlag) (value : Bool) : DataFlag :=
  ⟨assign flag.byte onOffBit value⟩

/-- The state to poll next: a waiting warning first, then a change of status, else `otherwise`. -/
def redirect (flag : DataFlag) (otherwise : PollState) : PollState :=
  if flag.warningPending then .warning
  else if flag.onOffChanged then .onOff
  else otherwise

end DataFlag

end UpsTelemetry
