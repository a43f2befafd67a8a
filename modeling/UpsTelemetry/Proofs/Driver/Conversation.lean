import UpsTelemetry.Proofs.Driver.Commands
import UpsTelemetry.Proofs.Driver.Identification
import UpsTelemetry.Proofs.Driver.PollStep
import UpsTelemetry.Proofs.Frame.Markers

/-!
# What the driver says

All that a driver does with its link is to exchange requests for replies, one at a time. This is a
statement about records: a session whose record begins empty does the same as the session without
(`Session.run_untraced`), and whatever is done with it, its record can be read as `RunCalls` says.

* `OperationCalls`: the calls of one operation, so many exchanges for one request, or none.
  `Session.calls_perform` is the step, and `Session.calls_run` follows by induction over the
  operations.
* `Driver.NeverOverflows`: nothing that a driver asks is too long for the room of a request.
* `Session.conversation`: the main statement.
-/

namespace UpsTelemetry

variable {τ ε σ : Type} {size : Nat}

/-! ## Readings of a record -/

/-- How often an operation may ask, if it is tried as often as `attempts` says. -/
def Operation.limit (attempts : Nat) : Operation → Nat
  | poll => 1
  | _ => max attempts 1

/-- The calls that an operation makes, with these settings and this state to poll next. -/
inductive OperationCalls {ε : Type} (size : Nat) (config : Config) (state : PollState)
    (operation : Operation) : List (LinkCall ε) → Prop
  /-- It asks nothing, and makes no calls. -/
  | none (idle : ∀ code payload, ¬ operation.Asks state code payload) :
      OperationCalls size config state operation []
  /-- It asks something, once at least and not more often than it may. -/
  | exchanges {code payload frame : Bytes} {count : Nat} {calls : List (LinkCall ε)}
      (asks : operation.Asks state code payload)
      (request : Frame.IsRequest config.address code payload frame)
      (length : frame.length = 18 ∨ frame.length = 22) (once : 1 ≤ count)
      (limited : count ≤ operation.limit config.attempts)
      (made : Exchanges size config.timeoutMillis frame count calls) :
      OperationCalls size config state operation calls

/-- A call as all calls of a driver are: what it sends is a request for something that an operation
asks, and it receives with all the room that there is. -/
def LinkCall.Conforms (size : Nat) (config : Config) : LinkCall ε → Prop
  | flushInput _ => True
  | send frame _ => ∃ operation : Operation, ∃ state code payload,
      operation.Asks state code payload ∧ Frame.IsRequest config.address code payload frame ∧
        (frame.length = 18 ∨ frame.length = 22)
  | receive room timeoutMillis _ _ => room = size ∧ timeoutMillis = config.timeoutMillis

/-- Exchanges for a request with no payload, or with four digits, are such calls. -/
theorem OperationCalls.of_exchanges {config : Config} {state : PollState} {operation : Operation}
    {command : Command} {payload : Bytes} {count : Nat} {calls : List (LinkCall ε)}
    (asks : operation.request? state = some (command, payload))
    (digits : ∀ char ∈ payload, Hex.isDigit char = true)
    (width : payload.length = 0 ∨ payload.length = 4) (once : 1 ≤ count)
    (limited : count ≤ operation.limit config.attempts)
    (made : Exchanges size config.timeoutMillis
      (Frame.sealed (Frame.requestHeader command .current config.address) payload) count calls) :
    OperationCalls size config state operation calls := by
  have request : Frame.IsRequest config.address command.code payload
      (Frame.sealed (Frame.requestHeader command .current config.address) payload) :=
    Frame.isRequest_sealed command config.address digits (by omega)
  have length := request.length_eq
  exact .exchanges (Operation.asks_iff.2 ⟨command, asks, rfl⟩) request (by omega) once limited made

/-- Every call of an operation is as the calls of a driver are. -/
theorem OperationCalls.conforms {config : Config} {state : PollState} {operation : Operation}
    {calls : List (LinkCall ε)} (made : OperationCalls size config state operation calls) :
    ∀ call ∈ calls, call.Conforms size config := by
  cases made with
  | none idle => nofun
  | @exchanges code payload frame count calls asks request length once limited made =>
    obtain ⟨blocks, -, rfl, blocks_exchange⟩ := made
    intro call mem
    obtain ⟨block, inBlocks, mem⟩ := List.mem_flatten.1 mem
    obtain ⟨outcome, exchange⟩ := blocks_exchange block inBlocks
    have sends (sent : Except ε Nat) : (LinkCall.send frame sent).Conforms size config :=
      ⟨operation, state, code, payload, asks, request, length⟩
    cases exchange <;> simp only [List.mem_cons, List.not_mem_nil, or_false] at mem
    case unflushed => exact mem ▸ trivial
    case unsent | untaken =>
      rcases mem with rfl | rfl
      · trivial
      · exact sends _
    case unreceived | silent | answered =>
      rcases mem with rfl | rfl | rfl
      · trivial
      · exact sends _
      · exact ⟨rfl, rfl⟩

/-! ## Requests always fit -/

/-- Whatever came out, it is not that a request was too long. -/
def FitsRoom {α : Type} (outcome : Except (DriverError ε) α) : Prop :=
  outcome ≠ .error (.frame .overflow)

namespace FitsRoom

variable {α β S : Type}

/-- If no step overflows, a sequence of steps does not. -/
theorem bind {outcome : Except (DriverError ε) α} {next : α → Except (DriverError ε) β}
    (fits : FitsRoom outcome) (goesOn : ∀ value, FitsRoom (next value)) :
    FitsRoom (outcome.bind next) := by
  cases outcome with
  | error error => exact fun failed => fits (congrArg Except.error (Except.error.inj failed))
  | ok value => exact goesOn value

/-- What is made of an outcome makes no difference. -/
theorem map {outcome : Except (DriverError ε) α} (fits : FitsRoom outcome) (f : α → β) :
    FitsRoom (outcome.map f) := by
  cases outcome with
  | error error => exact fun failed => fits (congrArg Except.error (Except.error.inj failed))
  | ok value => exact nofun

/-- The outcome of a loop is that of one of its attempts. -/
theorem retry {attempt : S → Except (DriverError ε) α × S}
    (each : ∀ state, FitsRoom (attempt state).1) (attempts : Nat) (good : α → Bool) (state : S) :
    FitsRoom (retry attempts attempt good state).1 := by
  obtain ⟨before, same⟩ := exists_retry_eq attempts attempt good state
  rw [same]
  exact each before

/-- A reader of fields has no requests to make. -/
theorem of_readsFields {read : Reply → Except FrameError α} {fields : List Field}
    (reads : ReadsFields read fields) (reply : Reply) :
    FitsRoom ((read reply).mapError DriverError.frame : Except (DriverError ε) α) := by
  cases came : read reply with
  | ok value => exact nofun
  | error fault =>
    obtain ⟨offset, rfl⟩ := reads.exists_offset came
    exact nofun

/-- A check finds faults in replies, and an overflow is none. -/
theorem checked (strict : Bool) (reply : Reply) :
    FitsRoom (checked strict reply : Except (DriverError ε) Reply) := by
  intro failed
  obtain ⟨fault, -, verdict, same⟩ := checked_eq_error_iff.1 failed
  cases same
  obtain ⟨raw⟩ := reply
  cases Frame.verify_eq_error_iff.1 verdict

/-- Accepting a reply overflows only if receiving it did. -/
theorem accept {read : Except (DriverError ε) Nat} (fits : FitsRoom read) (buffer : Bytes)
    (minimum : Nat) : FitsRoom (accept read buffer minimum) := by
  intro failed
  cases accept_eq_error_iff.1 failed with
  | failed => exact fits rfl

end FitsRoom

variable [Link τ ε]

namespace Line

variable {config : Config} {command : Command} {payload : Bytes}
  (fits : payload.length + Frame.overhead ≤ Frame.requestCapacity) (line : Line τ size)

include fits

/-- An exchange does not overflow if its payload leaves room for the rest of the frame. -/
theorem fitsRoom_exchange : FitsRoom (line.exchange config command payload).1 := by
  intro failed
  unfold exchange sendAndAwait await at failed
  simp only [Frame.request?_of_fits fits] at failed
  repeat' split at failed
  all_goals cases failed

/-- Neither does a request. -/
theorem fitsRoom_request (minimumInfo : Nat) :
    FitsRoom (line.request config command payload minimumInfo).1 :=
  ((fitsRoom_exchange fits line).accept _ _).bind (FitsRoom.checked config.strict)

end Line

namespace Driver

/-- An attempt at identification has no payload, so it does not overflow. -/
theorem fitsRoom_identifyOnce (config : Config) (line : Line τ size) :
    FitsRoom (identifyOnce config line).1 := by
  have exchanged : FitsRoom (line.exchange config .readVendorInfo []).1 :=
    line.fitsRoom_exchange (by decide)
  unfold identifyOnce
  generalize line.exchange config .readVendorInfo [] = result at exchanged ⊢
  obtain ⟨read, line'⟩ := result
  cases read with
  | error error => exact exchanged
  | ok got =>
    dsimp only
    split
    · exact (FitsRoom.checked config.strict (line'.reply got)).map _
    · exact exchanged

omit [Link τ ε] in
/-- Reading the model does not, since it asks nothing. -/
theorem fitsRoom_identityOf (config : Config) (line : Line τ size) (got : Nat) :
    FitsRoom (identityOf config line got : Except (DriverError ε) _) := by
  have read := @FitsRoom.of_readsFields ε _ _ _ VendorInfo.readsFields_model (line.reply got)
  unfold identityOf
  split
  · exact nofun
  · cases model : VendorInfo.model (line.reply got) with
    | ok name => exact nofun
    | error fault =>
      rw [model] at read
      exact fun failed => read (congrArg Except.error (Except.error.inj failed))

/-- Nothing that a driver asks is too long. -/
structure NeverOverflows (driver : Driver τ size) : Prop where
  identify : driver.identify.1 ≠ .error (.frame .overflow)
  read : ∀ hasStatus, (driver.read hasStatus).1 ≠ .error (.frame .overflow)
  sendCommand : ∀ command, (driver.sendCommand command).1 ≠ .error (.frame .overflow)
  execute : ∀ name, (driver.execute name).1 ≠ .error (.frame .overflow)

/-- No operation of a driver fails because its request is too long. -/
theorem neverOverflows (driver : Driver τ size) : driver.NeverOverflows := by
  have sendCommand (command : InstantCommand) : FitsRoom (driver.sendCommand command).1 := by
    rw [sendCommand_fst]
    refine (FitsRoom.retry (fun line => ?_) _ _ _).map _
    exact line.fitsRoom_request command.payload_fits acknowledgementInfo
  refine ⟨?_, fun hasStatus => ?_, sendCommand, fun name => ?_⟩
  · rw [identify_fst]
    exact (FitsRoom.retry (fitsRoom_identifyOnce driver.config) _ _ _).bind
      (fitsRoom_identityOf driver.config driver.identifyTries.2)
  · have requested : FitsRoom driver.pollOnce.1 := Line.fitsRoom_request (by decide) _ _
    refine requested.bind fun reply => ?_
    exact .of_readsFields (Report.readsFields_ofReply driver.state hasStatus) reply
  · unfold execute
    cases InstantCommand.ofName? name with
    | none => exact nofun
    | some command => exact (sendCommand command).map _

end Driver

/-! ## Operations -/

omit [Link τ ε] in
/-- So many attempts as are made are as many exchanges. -/
theorem exchanges_retry {α : Type} {timeoutMillis : Nat} {frame : Bytes}
    {attempt : Line (TracedLink τ ε) size →
      Except (DriverError ε) α × Line (TracedLink τ ε) size}
    (exchanges : ∀ line, ∃ outcome calls, ExchangeCalls size timeoutMillis frame outcome calls ∧
      (attempt line).2.link.calls = line.link.calls ++ calls)
    (attempts : Nat) (good : α → Bool) (line : Line (TracedLink τ ε) size) :
    ∃ count calls, 1 ≤ count ∧ count ≤ max attempts 1 ∧
      Exchanges size timeoutMillis frame count calls ∧
        (retry attempts attempt good line).2.link.calls = line.link.calls ++ calls := by
  obtain ⟨count, once, limited, left⟩ := exists_stateBefore_retry attempts attempt good line
  obtain ⟨calls, made, recorded⟩ := exchanges_stateBefore exchanges count line
  exact ⟨count, calls, once, limited, made, left ▸ recorded⟩

namespace Session

variable [TelemetrySink σ]

/-- The settings are kept by every operation. -/
theorem config_perform (session : Session τ σ size) (operation : Operation) :
    (session.perform operation).2.driver.config = session.driver.config := by
  rcases operation.kinds session.driver.state with rfl | rfl | ⟨command, sends, -⟩ | idle
  · rw [perform_identify_driver, Driver.identify_config]
  · exact session.driver.poll_config _
  · rw [perform_driver_of_command sends, Driver.sendCommand_config]
  · rw [perform_driver_of_idle idle]

/-- Every operation makes its calls. -/
theorem calls_perform (session : Session (TracedLink τ ε) σ size) (operation : Operation) :
    ∃ calls, OperationCalls size session.driver.config session.driver.state operation calls ∧
      (session.perform operation).2.driver.link.calls = session.driver.link.calls ++ calls := by
  obtain ⟨⟨link, config, state⟩, sink⟩ := session
  rcases operation.kinds state with rfl | rfl | ⟨command, sends, asks⟩ | idle
  · obtain ⟨count, calls, once, limited, made, recorded⟩ := exchanges_retry
      (Driver.identifyOnce_calls config) config.attempts Driver.identifies (Line.fresh link size)
    refine ⟨calls, .of_exchanges rfl nofun (.inl rfl) once limited made, ?_⟩
    rw [perform_identify_driver, Driver.identify_link]
    exact recorded
  · have built : Frame.request? Frame.requestCapacity state.command .current config.address [] =
        .ok (Frame.sealed (Frame.requestHeader state.command .current config.address) []) :=
      Frame.request?_of_fits (by decide)
    obtain ⟨calls, made, recorded⟩ := (Line.fresh link size).exchange_calls built
    have one : Exchanges size config.timeoutMillis
        (Frame.sealed (Frame.requestHeader state.command .current config.address) []) 1 calls :=
      ⟨[calls], rfl, by simp, by simpa using ⟨_, made⟩⟩
    refine ⟨calls, .of_exchanges rfl nofun (.inl rfl) (Nat.le_refl 1) (Nat.le_refl 1) one, ?_⟩
    exact (congrArg TracedLink.calls (Driver.poll_link _ _)).trans recorded
  · obtain ⟨count, calls, once, limited, made, recorded⟩ := exchanges_retry
      (Driver.commandOnce_calls config command) config.attempts Driver.acknowledges
      (Line.fresh link size)
    have limit : operation.limit config.attempts = max config.attempts 1 := by
      cases operation with
      | poll => cases sends
      | _ => rfl
    refine ⟨calls, .of_exchanges asks (Hex.isDigit_ofWord _) (.inr rfl) once (limit ▸ limited) made,
      ?_⟩
    rw [perform_driver_of_command sends, Driver.sendCommand_link]
    exact recorded
  · refine ⟨[], .none (Operation.not_asks_of_idle idle), ?_⟩
    rw [perform_driver_of_idle idle, List.append_nil]

/-! ## Runs -/

/-- The calls of some operations, one after the other. -/
inductive RunCalls : List Operation → Session (TracedLink τ ε) σ size → List (LinkCall ε) → Prop
  | nil {session : Session (TracedLink τ ε) σ size} : RunCalls [] session []
  | cons {operation : Operation} {rest : List Operation}
      {session : Session (TracedLink τ ε) σ size} {calls others : List (LinkCall ε)}
      (first : OperationCalls size session.driver.config session.driver.state operation calls)
      (goesOn : RunCalls rest (session.perform operation).2 others) :
      RunCalls (operation :: rest) session (calls ++ others)

/-- A run makes the calls of its operations. -/
theorem calls_run (operations : List Operation) (session : Session (TracedLink τ ε) σ size) :
    ∃ calls, RunCalls operations session calls ∧
      (run operations session).2.driver.link.calls = session.driver.link.calls ++ calls := by
  induction operations generalizing session with
  | nil => exact ⟨[], .nil, (List.append_nil _).symm⟩
  | cons operation rest ih =>
    obtain ⟨calls, made, recorded⟩ := session.calls_perform operation
    obtain ⟨others, follow, recorded'⟩ := ih (session.perform operation).2
    refine ⟨calls ++ others, .cons made follow, ?_⟩
    rw [run_cons, recorded', recorded, List.append_assoc]

/-- Every call of a run is as the calls of a driver are. -/
theorem RunCalls.conforms {operations : List Operation}
    {session : Session (TracedLink τ ε) σ size} {calls : List (LinkCall ε)}
    (made : RunCalls operations session calls) :
    ∀ call ∈ calls, call.Conforms size session.driver.config := by
  induction made with
  | nil => nofun
  | @cons operation rest session calls others first goesOn ih =>
    intro call mem
    rcases List.mem_append.1 mem with here | later
    · exact first.conforms call here
    · rw [← session.config_perform operation]
      exact ih call later

/-- **A driver asks one thing at a time, in requests that nobody can mistake.** Whatever the link
does and whatever a host asks for, in whatever order, the calls made of the link are those of the
operations in turn: for a poll step one exchange, for an identification or a command as many as it
is tried, and none for a name that is no command's or for the request to shut down. An exchange
throws away input, then sends, then receives, and ends with the first of these that fails. What is
sent is an intact frame of eighteen or twenty-two bytes with its markers at its ends and nowhere
else, for the address as it was given, with the code and the payload that the operation asks by.
Every receive has the whole buffer and the time of the settings. No request is ever too long. -/
theorem conversation (session : Session τ σ size) (operations : List Operation) :
    let start := session.recorded
    let calls := (run operations start).2.driver.link.calls
    run operations session = Prod.map id untraced (run operations start) ∧
    RunCalls operations start calls ∧
    (∀ call ∈ calls, call.Conforms size session.driver.config) ∧
    (∀ driver : Driver τ size, driver.NeverOverflows) ∧
    ∀ text, Address.ofString? text = some session.driver.config.address ↔
      session.driver.config.address.bytes.map UInt8.toNat = text.toList.map Char.toNat := by
  intro start calls
  obtain ⟨made, follow, recorded⟩ := start.calls_run operations
  have all : calls = made := recorded
  refine ⟨run_untraced operations session, all ▸ follow, ?_, Driver.neverOverflows,
    fun text => Address.ofString?_eq_some_iff⟩
  rw [all]
  exact follow.conforms

end Session

end UpsTelemetry
