import UpsTelemetry.Driver.Config
import UpsTelemetry.Driver.Error
import UpsTelemetry.Frame.Reply
import UpsTelemetry.Frame.Request
import UpsTelemetry.Link.Basic

/-!
# Exchanges

An exchange throws away stale input, sends one request and receives one reply, strictly in this
order; the first step that fails ends it. Its result is the number of bytes that the link claims to
have received, which nothing keeps from being larger than the buffer.

A reply is accepted (`accept`) if enough bytes came and the UPS reports success, and stays accepted
(`checked`) if, with strict settings, the frame is intact. `Line.request` does all of this.
-/

namespace UpsTelemetry

/-! ## Acceptance -/

/-- The reply in a buffer, if its first `got` bytes are accepted as one: there are at least
`minimum` of them, and the return code among them reports success. A read that failed is no
reply. -/
def accept {ε : Type} (read : Except (DriverError ε) Nat) (buffer : Bytes) (minimum : Nat) :
    Except (DriverError ε) Reply :=
  match read with
  | .error error => .error error
  | .ok got =>
    if got < minimum then .error (.frame (.shortRead minimum got))
    else
      let reply : Reply := ⟨buffer.take got⟩
      match reply.returnCode with
      | .error error => .error (.frame error)
      | .ok code =>
        match ReturnCode.ofByte code with
        | .ok => .ok reply
        | rejection => .error (.rejected rejection)

/-- The same reply, if it is intact or nobody asks. -/
def checked {ε : Type} (strict : Bool) (reply : Reply) : Except (DriverError ε) Reply :=
  if strict then
    match reply.verify with
    | .ok () => .ok reply
    | .error error => .error (.frame error)
  else .ok reply

/-! ## Exchanges over a line -/

/-- A link and the buffer that replies are received into. The buffer outlives an exchange: what one
reply left in it is there when the next is received. -/
structure Line (τ : Type) (size : Nat) where
  /-- The link to the UPS. -/
  link : τ
  /-- The buffer. -/
  buffer : ReceiveBuffer size

namespace Line

variable {τ ε : Type} {size : Nat} [Link τ ε]

/-- A link with a fresh buffer. -/
def fresh (link : τ) (size : Nat) : Line τ size :=
  ⟨link, .zeros size⟩

/-- The reply, if the link claims to have received `got` bytes. -/
def reply (line : Line τ size) (got : Nat) : Reply :=
  ⟨line.buffer.received got⟩

/-- Receives a reply. Nothing in time is a failure. -/
def await (config : Config) (line : Line τ size) : Except (DriverError ε) Nat × Line τ size :=
  match Link.receive line.buffer config.timeoutMillis line.link with
  | (.error fault, buffer, link) => (.error (.link fault), ⟨link, buffer⟩)
  | (.ok got, buffer, link) =>
    if got = 0 then (.error .timeout, ⟨link, buffer⟩) else (.ok got, ⟨link, buffer⟩)

/-- Sends a frame and receives the reply. -/
def sendAndAwait (config : Config) (frame : Bytes) (line : Line τ size) :
    Except (DriverError ε) Nat × Line τ size :=
  match Link.send frame line.link with
  | (.error fault, link) => (.error (.link fault), { line with link })
  | (.ok written, link) =>
    if written = 0 then (.error .timeout, { line with link })
    else await config { line with link }

/-- Sends one command and receives whatever comes back. -/
def exchange (config : Config) (command : Command) (payload : Bytes) (line : Line τ size) :
    Except (DriverError ε) Nat × Line τ size :=
  match Link.flushInput line.link with
  | (.error fault, link) => (.error (.link fault), { line with link })
  | (.ok (), link) =>
    match Frame.request? Frame.requestCapacity command .current config.address payload with
    | .error error => (.error (.frame error), { line with link })
    | .ok frame => sendAndAwait config frame { line with link }

/-- Sends one command and accepts a reply with at least `minimumInfo` characters behind its
header. -/
def request (config : Config) (command : Command) (payload : Bytes) (minimumInfo : Nat)
    (line : Line τ size) : Except (DriverError ε) Reply × Line τ size :=
  let (read, line') := line.exchange config command payload
  let accepted := accept read line'.buffer.contents (Frame.headerLength + minimumInfo)
  (accepted.bind (checked config.strict), line')

end Line

end UpsTelemetry
