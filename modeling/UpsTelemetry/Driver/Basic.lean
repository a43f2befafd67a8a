import UpsTelemetry.Driver.Exchange
import UpsTelemetry.Driver.InstantCommand
import UpsTelemetry.Driver.Retry
import UpsTelemetry.Telemetry.Report

/-!
# The driver

A driver holds a link to one UPS, its settings, and the state to poll next. Its operations change
the driver and say what the host is to be told; they never see the host, except that a poll step
asks for the committed status.

* `identify`: publish manufacturer, model and address, once at the start.
* `poll`: read and report one telemetry frame. A step that fails only marks the data as old, and is
  repeated by the next.
* `execute`, `instant`, `sendCommand`: carry out an instant command. One that is acknowledged makes
  the next poll step read the system parameters.
* `shutDown`: the UPS cannot be shut down over its line, so this does nothing.

Each operation receives into a buffer of its own, which all attempts of the operation share.
-/

namespace UpsTelemetry

/-- The size of the receive buffer of a driver unless another is asked for. The longest telemetry
reply has 124 bytes. -/
def standardBufferSize : Nat := 128

/-- A driver with receive buffers of `size` bytes. -/
structure Driver (τ : Type) (size : Nat) where
  /-- The link to the UPS. -/
  link : τ
  /-- The settings. -/
  config : Config
  /-- The state to poll next. -/
  state : PollState

/-- The name under which the driver introduces itself to the host. -/
def driverName : String := "Liebert GXE Series UPS driver"

/-- The version of the driver that goes with its name. -/
def driverVersion : String := "0.01"

/-- The maker's name that is published. The UPS does not report one. -/
def manufacturer : String := "EmersonNetworkPower"

/-! ## The vendor information frame -/

namespace VendorInfo

/-- The shortest INFO that carries the whole model name, in characters. -/
def minimumInfo : Nat := 22

/-- The shortest reply that does. -/
def minimumLength : Nat := Frame.headerLength + minimumInfo

/-- Where the model name stands in INFO. -/
def modelAt : Nat := 0

/-- How many characters the model name takes up. -/
def modelWidth : Nat := 20

/-- Reads the model name out of a reply. -/
def model (reply : Reply) : Except FrameError String :=
  reply.text modelAt modelWidth (modelWidth / 2)

end VendorInfo

/-- The shortest INFO that acknowledges a command: none at all. -/
def acknowledgementInfo : Nat := 0

namespace Driver

variable {τ ε : Type} {size : Nat} [Link τ ε]

/-- A driver that has done nothing yet. -/
def new (link : τ) (config : Config) : Driver τ size :=
  ⟨link, config, .initial⟩

/-! ## Identification -/

/-- One attempt at identification: the number of bytes that came. With strict settings a reply
which is long enough, but not intact, is a failure. -/
def identifyOnce (config : Config) (line : Line τ size) :
    Except (DriverError ε) Nat × Line τ size :=
  match line.exchange config .readVendorInfo [] with
  | (.error error, line') => (.error error, line')
  | (.ok got, line') =>
    if VendorInfo.minimumLength ≤ got then
      ((checked config.strict (line'.reply got)).map fun _ => got, line')
    else (.ok got, line')

/-- What the host is told of a UPS of the given model at the given address. -/
def identityEvents (model : String) (address : Address) : List SinkEvent :=
  [.publish .manufacturer manufacturer, .publish .model model, .publish .identity address.text]

/-- The events of an identification whose last attempt received `got` bytes. -/
def identityOf (config : Config) (line : Line τ size) (got : Nat) :
    Except (DriverError ε) (List SinkEvent) :=
  if got < VendorInfo.minimumLength then .error (.insufficientIdentification got)
  else
    match VendorInfo.model (line.reply got) with
    | .error error => .error (.frame error)
    | .ok model => .ok (identityEvents model config.address)

/-- Asks the UPS who it is, and yields what the host is to be told. A UPS that does not answer, or
not with enough to hold its model name, is an error, and then the driver should not be started. -/
def identify (driver : Driver τ size) :
    Except (DriverError ε) (List SinkEvent) × Driver τ size :=
  let (outcome, line) :=
    retry driver.config.attempts (identifyOnce driver.config)
      (fun got => decide (VendorInfo.minimumLength ≤ got)) (Line.fresh driver.link size)
  match outcome.bind (identityOf driver.config line) with
  | .error error => (.error error, { driver with link := line.link })
  | .ok events => (.ok events, { driver with link := line.link, state := .initial })

/-! ## Polling -/

/-- Reads the telemetry frame of the current state, for a host with the given committed status. -/
def read (driver : Driver τ size) (hasStatus : String → Bool) :
    Except (DriverError ε) Report × τ :=
  let state := driver.state
  let (outcome, line) :=
    (Line.fresh driver.link size).request driver.config state.command [] state.minimumInfo
  (outcome.bind fun reply => (Report.ofReply state hasStatus reply).mapError DriverError.frame,
    line.link)

/-- Runs one step of the poll cycle, and yields what the host is to be told. -/
def poll (driver : Driver τ size) (hasStatus : String → Bool) : List SinkEvent × Driver τ size :=
  match driver.read hasStatus with
  | (.ok report, link) =>
    (report.events ++ [.markFresh], { driver with link, state := report.next })
  | (.error _, link) => ([.markStale], { driver with link })

/-! ## Commands -/

/-- Sends a command until the UPS acknowledges it. An acknowledgement that is lost makes the command
go out again, so the UPS may carry it out twice. -/
def sendCommand (driver : Driver τ size) (command : InstantCommand) :
    Except (DriverError ε) Unit × Driver τ size :=
  let (outcome, line) :=
    retry driver.config.attempts
      (fun line : Line τ size =>
        line.request driver.config .remoteControl command.payload acknowledgementInfo)
      (fun _ => true) (Line.fresh driver.link size)
  match outcome with
  | .error error => (.error error, { driver with link := line.link })
  | .ok _ => (.ok (), { driver with link := line.link, state := .initial })

/-- Looks up a command by its name and sends it. -/
def execute (driver : Driver τ size) (name : String) :
    Except (DriverError ε) InstantCommand × Driver τ size :=
  match InstantCommand.ofName? name with
  | none => (.error .unknownCommand, driver)
  | some command =>
    let (outcome, driver') := driver.sendCommand command
    (outcome.map fun _ => command, driver')

/-- Carries out the command of a name, and says what became of it. -/
def instant (driver : Driver τ size) (name : String) : CommandOutcome × Driver τ size :=
  match driver.execute name with
  | (.ok _, driver') => (.handled, driver')
  | (.error .unknownCommand, driver') => (.unknown, driver')
  | (.error _, driver') => (.failed, driver')

/-- Does nothing: the UPS cannot be shut down over its line. -/
def shutDown (driver : Driver τ size) : Driver τ size :=
  driver

end Driver

end UpsTelemetry
