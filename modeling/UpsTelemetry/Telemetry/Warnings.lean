import UpsTelemetry.Frame.Reply

/-!
# The warning frame

A row of one-byte fields, one per position of a fixed table. Some positions are reserved and are
never read. At the others four values mean that the warning is active, and every other value that
it is not.
-/

namespace UpsTelemetry.Warnings

/-- The warning at each position of the frame; `none` where the position is reserved. -/
def table : List (Option String) :=
  [none,
    some "Inverter Out-of-Sync",
    some "Unhealthy Main Circuit",
    some "Rectifier Failure",
    some "Inverter Failure",
    some "Unhealthy Bypass",
    some "Unhealthy Battery Voltage",
    none,
    none,
    some "Power Module Overheated",
    some "Unhealthy Fan",
    some "Neutral Input Missing",
    some "Master Line Abnormally Turned-off",
    some "Charger Failure",
    some "Battery Discharge Declined",
    some "Backup Power Supply Failure",
    some "Output Overloaded",
    some "Output Shorted",
    some "Overload Timed-out",
    some "Unhealthy Parallel Machine Current",
    some "Parallel Machine Connection Failure",
    some "Parallel Machine Address Error",
    some "Unhealthy Internal Communication",
    some "System Overloaded",
    some "Battery Installed Backwards",
    some "Battery Not Found"]

/-- The offset into INFO of a position. -/
def offset (position : Nat) : Nat :=
  2 + 2 * position

/-- Whether a field reports its warning as active. -/
def isActive (field : UInt8) : Bool :=
  field == 0x01 || field == 0x02 || field == 0x03 || field == 0xF0

/-- The active ones among the warnings of `rest`, which stand at `position` and after it. -/
def activeFrom (reply : Reply) (position : Nat) :
    List (Option String) → Except FrameError (List String)
  | [] => .ok []
  | none :: rest => activeFrom reply (position + 1) rest
  | some name :: rest => do
    let field ← reply.byte (offset position)
    let others ← activeFrom reply (position + 1) rest
    return if isActive field then name :: others else others

/-- Reads the active warnings out of a reply, in the order of the table. -/
def ofReply (reply : Reply) : Except FrameError (List String) :=
  activeFrom reply 0 table

end UpsTelemetry.Warnings
