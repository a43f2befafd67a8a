import UpsTelemetry.Frame.Address

/-!
# Settings of the driver

Which device to talk to, how strictly to check its replies, and how long and how often to try.
-/

namespace UpsTelemetry

/-- What a driver is set to. -/
structure Config where
  /-- The address of the device. -/
  address : Address := .standard
  /-- Whether the length and the checksum of every reply are checked. If not, a reply is judged by
  the return code alone. -/
  strict : Bool := true
  /-- How long one exchange waits for the reply, in milliseconds. -/
  timeoutMillis : Nat := 1000
  /-- How often identification and each command are tried. -/
  attempts : Nat := 3
deriving DecidableEq, Repr

/-- Why a setting is refused. -/
inductive ConfigError
  /-- The address is not two hexadecimal digits. -/
  | invalidAddress
deriving DecidableEq, Repr

/-- The wording of a refusal. -/
def ConfigError.message : ConfigError → String
  | invalidAddress => "UPS address must be two hex digits"

namespace Config

/-- The settings of a driver which nobody has set. -/
def standard : Config := {}

instance : Inhabited Config := ⟨standard⟩

/-- The shortest time between two polls, in seconds. Of two frames in quick succession the UPS
answers only the first. -/
def minimumPollSeconds : Nat := 5

/-- Sets the address. -/
def withAddress (config : Config) (text : String) : Except ConfigError Config :=
  match Address.ofString? text with
  | some address => .ok { config with address }
  | none => .error .invalidAddress

/-- Sets whether replies are checked. -/
def withStrict (config : Config) (strict : Bool) : Config :=
  { config with strict }

/-- Sets how long an exchange waits. -/
def withTimeout (config : Config) (timeoutMillis : Nat) : Config :=
  { config with timeoutMillis }

/-- Sets how often to try. Once is the least. -/
def withAttempts (config : Config) (attempts : Nat) : Config :=
  { config with attempts := max attempts 1 }

end Config

end UpsTelemetry
