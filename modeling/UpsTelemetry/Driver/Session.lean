import UpsTelemetry.Driver.Basic

/-!
# Sessions

A session is a driver together with the host that it tells. A host runs a session by operations, one
at a time; `perform` does one of them and `run` a list of them, keeping for each what it came to and
what the host was told.

* `run_append`: a run can be cut anywhere.
-/

namespace UpsTelemetry

/-- Something a host does with its driver. -/
inductive Operation
  /-- Identify the UPS. -/
  | identify
  /-- Run one step of the poll cycle. -/
  | poll
  /-- Carry out the command of a name, reporting only what became of it. -/
  | instant (name : String)
  /-- Carry out the command of a name. -/
  | execute (name : String)
  /-- Carry out a command. -/
  | send (command : InstantCommand)
  /-- Shut the UPS down. -/
  | shutDown
deriving DecidableEq, Repr

/-- What an operation came to, over a link with faults of type `ε`. -/
inductive Outcome (ε : Type)
  /-- The UPS was identified, or was not. -/
  | identified (result : Except (DriverError ε) Unit)
  /-- A poll step was run; this state is to be polled next. -/
  | polled (next : PollState)
  /-- An instant command was tried. -/
  | commanded (result : CommandOutcome)
  /-- A command was looked up and sent, or not. -/
  | executed (result : Except (DriverError ε) InstantCommand)
  /-- A command was sent, or not. -/
  | sent (result : Except (DriverError ε) Unit)
  /-- The UPS was asked to shut down. -/
  | shutDown

/-- One step of a session: what the operation came to, and what the host was told. -/
structure Step (ε : Type) where
  /-- What the operation came to. -/
  outcome : Outcome ε
  /-- What the host was told, in order. -/
  events : List SinkEvent

/-- A driver and the host that it tells. -/
structure Session (τ σ : Type) (size : Nat) where
  /-- The driver. -/
  driver : Driver τ size
  /-- The host. -/
  sink : σ

namespace Session

variable {τ ε σ : Type} {size : Nat} [Link τ ε] [TelemetrySink σ]

/-- The step that an operation is for a driver, if the host has the given committed status, and the
driver afterwards. -/
def step (operation : Operation) (hasStatus : String → Bool) (driver : Driver τ size) :
    Step ε × Driver τ size :=
  match operation with
  | .identify =>
    match driver.identify with
    | (.ok events, driver') => (⟨.identified (.ok ()), events⟩, driver')
    | (.error error, driver') => (⟨.identified (.error error), []⟩, driver')
  | .poll =>
    let (events, driver') := driver.poll hasStatus
    (⟨.polled driver'.state, events⟩, driver')
  | .instant name =>
    let (outcome, driver') := driver.instant name
    (⟨.commanded outcome, []⟩, driver')
  | .execute name =>
    let (outcome, driver') := driver.execute name
    (⟨.executed outcome, []⟩, driver')
  | .send command =>
    let (outcome, driver') := driver.sendCommand command
    (⟨.sent outcome, []⟩, driver')
  | .shutDown => (⟨.shutDown, []⟩, driver.shutDown)

/-- Does one operation and tells the host. -/
def perform (operation : Operation) (session : Session τ σ size) :
    Step ε × Session τ σ size :=
  let (result, driver) := step operation (TelemetrySink.hasStatus session.sink) session.driver
  (result, ⟨driver, TelemetrySink.emit result.events session.sink⟩)

/-- Does a list of operations, one after the other. -/
def run : List Operation → Session τ σ size → List (Step ε) × Session τ σ size
  | [], session => ([], session)
  | operation :: rest, session =>
    let (result, session') := session.perform operation
    let (results, final) := run rest session'
    (result :: results, final)

/-- A run does its first operation, and the rest on the session that this leaves. -/
theorem run_cons (operation : Operation) (rest : List Operation) (session : Session τ σ size) :
    run (operation :: rest) session =
      ((session.perform operation).1 :: (run rest (session.perform operation).2).1,
        (run rest (session.perform operation).2).2) := rfl

/-- A run can be cut anywhere. -/
theorem run_append (first second : List Operation) (session : Session τ σ size) :
    run (first ++ second) session =
      ((run first session).1 ++ (run second (run first session).2).1,
        (run second (run first session).2).2) := by
  induction first generalizing session with
  | nil => simp [run]
  | cons operation rest ih => simp [run, ih]

end Session

end UpsTelemetry
