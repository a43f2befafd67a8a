import UpsTelemetry.Text.Hex

/-!
# The frames a UPS understands

Every request names its frame by a command code of two bytes. The first byte names the kind of
device and is the same for all; the second byte tells the frames apart.
-/

namespace UpsTelemetry

/-- A frame that a UPS understands. -/
inductive Command
  /-- Read the analog measurements. -/
  | readAnalog
  /-- Read the on/off status. -/
  | readOnOff
  /-- Read the active warnings. -/
  | readWarnings
  /-- Carry out an instant command. -/
  | remoteControl
  /-- Read the system parameters. -/
  | readParameters
  /-- Change the system parameters. -/
  | writeParameters
  /-- Read the version of the protocol. -/
  | readProtocolVersion
  /-- Read the address of the device. -/
  | readAddress
  /-- Read the model and its maker's notes. -/
  | readVendorInfo
  /-- Read the maker's version. -/
  | readVendorVersion
  /-- Read the version of the firmware. -/
  | readFirmwareVersion
  /-- Read the analog measurements of a parallel group. -/
  | readParallelAnalog
deriving DecidableEq, Repr

namespace Command

/-- Every frame, in the order of their codes. -/
def all : List Command :=
  [readAnalog, readOnOff, readWarnings, remoteControl, readParameters, writeParameters,
    readProtocolVersion, readAddress, readVendorInfo, readVendorVersion, readFirmwareVersion,
    readParallelAnalog]

/-- The byte that names the kind of device: a UPS. -/
def deviceKind : UInt8 := 0x2A

/-- The byte that tells one frame from another. -/
def frameKind : Command → UInt8
  | readAnalog => 0x42
  | readOnOff => 0x43
  | readWarnings => 0x44
  | remoteControl => 0x45
  | readParameters => 0x47
  | writeParameters => 0x49
  | readProtocolVersion => 0x4F
  | readAddress => 0x50
  | readVendorInfo => 0x51
  | readVendorVersion => 0x80
  | readFirmwareVersion => 0xE5
  | readParallelAnalog => 0xE6

/-- The command code as it is sent: four hexadecimal digits. -/
def code (command : Command) : Bytes :=
  Hex.ofByte deviceKind ++ Hex.ofByte command.frameKind

/-- A code has four characters. -/
@[simp] theorem length_code (command : Command) : command.code.length = 4 := rfl

end Command

end UpsTelemetry
