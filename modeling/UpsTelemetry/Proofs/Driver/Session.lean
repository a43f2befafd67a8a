import UpsTelemetry.Driver.Session

/-!
# What a session makes of its driver's operations

One equation for each operation: the step, and the session afterwards, from what the operation of
the driver comes to.

Instant commands come by name or as such, but to the driver they are one kind of operation. Whoever
needs to know only which one (`Operation.command?`) has the driver afterwards from
`perform_driver_of_command`.
-/

namespace UpsTelemetry

namespace Operation

/-- The instant command that an operation has the UPS carry out, if there is one. -/
def command? : Operation → Option InstantCommand
  | instant name => InstantCommand.ofName? name
  | execute name => InstantCommand.ofName? name
  | send command => some command
  | _ => none

/-- What an operation asks of the UPS, if it asks anything: the command and its payload. -/
def request? (state : PollState) : Operation → Option (Command × Bytes)
  | identify => some (.readVendorInfo, [])
  | poll => some (state.command, [])
  | operation => operation.command?.map fun command => (.remoteControl, command.payload)

/-- An operation identifies, polls, has a command carried out, or asks nothing. -/
theorem kinds (operation : Operation) (state : PollState) :
    operation = identify ∨ operation = poll ∨
      (∃ command, operation.command? = some command ∧
        operation.request? state = some (.remoteControl, command.payload)) ∨
      operation.request? state = none := by
  cases operation with
  | identify => exact .inl rfl
  | poll => exact .inr (.inl rfl)
  | send command => exact .inr (.inr (.inl ⟨command, rfl, rfl⟩))
  | shutDown => exact .inr (.inr (.inr rfl))
  | _ name =>
    cases known : InstantCommand.ofName? name with
    | some command => exact .inr (.inr (.inl ⟨command, known, by simp [request?, command?, known]⟩))
    | none => exact .inr (.inr (.inr (by simp [request?, command?, known])))

end Operation

variable {τ ε σ : Type} {size : Nat} [Link τ ε] [TelemetrySink σ]

namespace Session

variable {session : Session τ σ size} {driver' : Driver τ size}

/-- The host is told the events of the step. -/
theorem perform_sink (session : Session τ σ size) (operation : Operation) :
    (session.perform operation).2.sink =
      TelemetrySink.emit (session.perform operation).1.events session.sink := rfl

/-- A poll step passes its events on to the host, and comes to the state that is polled next. -/
theorem perform_poll {events : List SinkEvent}
    (polled : session.driver.poll (TelemetrySink.hasStatus session.sink) = (events, driver')) :
    session.perform .poll =
      (⟨.polled driver'.state, events⟩, ⟨driver', TelemetrySink.emit events session.sink⟩) := by
  simp only [perform, step, polled]

/-- An identification that succeeds passes its events on. -/
theorem perform_identify_of_ok {events : List SinkEvent}
    (identified : session.driver.identify = (.ok events, driver')) :
    session.perform .identify =
      (⟨.identified (.ok ()), events⟩, ⟨driver', TelemetrySink.emit events session.sink⟩) := by
  simp only [perform, step, identified]

/-- One that fails tells the host nothing. -/
theorem perform_identify_of_error {error : DriverError ε}
    (failed : session.driver.identify = (.error error, driver')) :
    session.perform .identify =
      (⟨.identified (.error error), []⟩, ⟨driver', session.sink⟩) := by
  simp only [perform, step, failed, TelemetrySink.emit_nil]

/-- The host is told nothing of a command; the step says whether it was sent. -/
theorem perform_send {command : InstantCommand} {outcome : Except (DriverError ε) Unit}
    (sent : session.driver.sendCommand command = (outcome, driver')) :
    session.perform (.send command) = (⟨.sent outcome, []⟩, ⟨driver', session.sink⟩) := by
  simp only [perform, step, sent, TelemetrySink.emit_nil]

/-- The same holds of a command that is given by name. -/
theorem perform_execute {name : String} {outcome : Except (DriverError ε) InstantCommand}
    (executed : session.driver.execute name = (outcome, driver')) :
    session.perform (.execute name) = (⟨.executed outcome, []⟩, ⟨driver', session.sink⟩) := by
  simp only [perform, step, executed, TelemetrySink.emit_nil]

/-- The same holds if only what became of it is wanted. -/
theorem perform_instant {name : String} {outcome : CommandOutcome}
    (tried : session.driver.instant name = (outcome, driver')) :
    session.perform (.instant name) = (⟨.commanded outcome, []⟩, ⟨driver', session.sink⟩) := by
  simp only [perform, step, tried, TelemetrySink.emit_nil]

end Session

/-! ## The driver afterwards -/

omit [TelemetrySink σ] in
/-- What is reported of a command changes nothing of what it does. -/
theorem Driver.instant_driver (driver : Driver τ size) (name : String) :
    (driver.instant name).2 = (driver.execute name).2 := by
  unfold instant
  split <;> simp only [*]

namespace Session

/-- Whether it succeeds or not, identification leaves the driver that it leaves. -/
theorem perform_identify_driver (session : Session τ σ size) :
    (session.perform .identify).2.driver = session.driver.identify.2 := by
  cases identified : session.driver.identify with
  | mk outcome driver' =>
    cases outcome with
    | error error => rw [perform_identify_of_error identified]
    | ok events => rw [perform_identify_of_ok identified]

/-- However a command is given, the driver is the one that sending it leaves. -/
theorem perform_driver_of_command {operation : Operation} {command : InstantCommand}
    (sends : operation.command? = some command) (session : Session τ σ size) :
    (session.perform operation).2.driver = (session.driver.sendCommand command).2 := by
  have executed {name : String} (known : InstantCommand.ofName? name = some command) :
      (session.driver.execute name).2 = (session.driver.sendCommand command).2 := by
    unfold Driver.execute
    rw [known]
  cases operation with
  | identify => cases sends
  | poll => cases sends
  | shutDown => cases sends
  | send command =>
    obtain rfl := Option.some.inj sends
    rfl
  | execute name => exact executed sends
  | instant name => exact (session.driver.instant_driver name).trans (executed sends)

/-- An operation that asks nothing leaves the driver alone. -/
theorem perform_driver_of_idle {operation : Operation} {state : PollState}
    (idle : operation.request? state = none) (session : Session τ σ size) :
    (session.perform operation).2.driver = session.driver := by
  have executed {name : String} (unknown : (Operation.execute name).request? state = none) :
      (session.driver.execute name).2 = session.driver := by
    have none : InstantCommand.ofName? name = none := Option.map_eq_none_iff.1 unknown
    unfold Driver.execute
    rw [none]
  cases operation with
  | identify => cases idle
  | poll => cases idle
  | send command => cases idle
  | shutDown => rfl
  | execute name => exact executed idle
  | instant name => exact (session.driver.instant_driver name).trans (executed idle)

end Session

end UpsTelemetry
