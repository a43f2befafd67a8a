import UpsTelemetry.Proofs.Driver.Attempts
import UpsTelemetry.Proofs.Driver.PollStep
import UpsTelemetry.Proofs.Telemetry.Guarded

/-!
# Sessions by guarded accesses

The driver once more, by guarded accesses: every piece of the receive buffer is cut by one, and
frames are built and read as in `Guarded.build`, `Guarded.verify` and `Guarded.report`. What a link
claims to have received bounds no access by itself, so each cut is at the smaller of the claim and
the buffer. Everything else of a session is as it was.

Each definition comes with an equation: it stops at no access, and comes to what the library says.

* `Guarded.exchange_eq`, `Guarded.request_eq`: one exchange, over any link.
* `Guarded.step_eq`, `Guarded.run_eq`: one operation, and all operations of a session.
-/

namespace UpsTelemetry

variable {τ ε σ : Type} {size : Nat} [Link τ ε]

namespace Guarded

open UpsTelemetry.Frame

/-! ## Replies -/

/-- What a link received, of which it claims that it is `got` bytes: so many of the first bytes of
the buffer, or all. -/
def reply (line : Line τ size) (got : Nat) : Guarded Reply := do
  let raw ← window line.buffer.contents 0 (min got size)
  return ⟨raw⟩

/-- The reply in a buffer, if its first `got` bytes are accepted as one. -/
def accept (read : Except (DriverError ε) Nat) (buffer : Bytes) (minimum : Nat) :
    Guarded (Except (DriverError ε) Reply) :=
  match read with
  | .error error => some (.error error)
  | .ok got =>
    if got < minimum then some (.error (.frame (.shortRead minimum got)))
    else do
      let raw ← window buffer 0 (min got buffer.length)
      match ← returnCode raw with
      | .error error => return .error (.frame error)
      | .ok code =>
        match ReturnCode.ofByte code with
        | .ok => return .ok ⟨raw⟩
        | rejection => return .error (.rejected rejection)

/-- The same reply, if it is intact or nobody asks. -/
def checked (strict : Bool) (reply : Reply) : Guarded (Except (DriverError ε) Reply) :=
  if strict then do
    match ← verify reply.raw with
    | .ok () => return .ok reply
    | .error error => return .error (.frame error)
  else some (.ok reply)

/-- A reply can always be taken from the buffer. -/
@[simp] theorem reply_eq (line : Line τ size) (got : Nat) :
    reply line got = some (line.reply got) := by
  have there := window_zero_min line.buffer.contents got
  rw [line.buffer.length_contents] at there
  rw [reply, there]
  rfl

/-- Accepting a reply never reads past its end. -/
@[simp] theorem accept_eq (read : Except (DriverError ε) Nat) (buffer : Bytes) (minimum : Nat) :
    accept read buffer minimum = some (UpsTelemetry.accept read buffer minimum) := by
  unfold accept UpsTelemetry.accept
  cases read with
  | error error => rfl
  | ok got =>
    dsimp only
    by_cases short : got < minimum
    · rw [if_pos short, if_pos short]
    have code := returnCode_eq ⟨buffer.take got⟩
    rw [if_neg short, if_neg short]
    simp only [window_zero_min, code, Option.bind_eq_bind, Option.bind_some]
    cases (Reply.mk (buffer.take got)).returnCode with
    | error error => rfl
    | ok code =>
      dsimp only
      cases ReturnCode.ofByte code <;> rfl

/-- Neither does checking it. -/
@[simp] theorem checked_eq (strict : Bool) (reply : Reply) :
    checked strict reply =
      some (UpsTelemetry.checked strict reply : Except (DriverError ε) Reply) := by
  cases strict with
  | false => rfl
  | true =>
    simp only [checked, UpsTelemetry.checked, if_true, verify_eq, Option.bind_eq_bind,
      Option.bind_some]
    cases reply.verify <;> rfl

/-! ## Exchanges -/

/-- Sends one command and receives whatever comes back, which is shown to whoever keeps a log. -/
def exchange (config : Config) (command : Command) (payload : Bytes) (line : Line τ size) :
    Guarded (Except (DriverError ε) Nat × Line τ size) :=
  match Link.flushInput line.link with
  | (.error fault, link) => some (.error (.link fault), { line with link })
  | (.ok (), link) => do
    match ← build requestCapacity command .current config.address payload with
    | .error error => return (.error (.frame error), { line with link })
    | .ok frame =>
      match Line.sendAndAwait config frame { line with link } with
      | (.error error, line') => return (.error error, line')
      | (.ok got, line') =>
        let _shown ← reply line' got
        return (.ok got, line')

/-- Sends one command and accepts a reply with at least `minimumInfo` characters behind its
header. -/
def request (config : Config) (command : Command) (payload : Bytes) (minimumInfo : Nat)
    (line : Line τ size) : Guarded (Except (DriverError ε) Reply × Line τ size) := do
  let (read, line') ← exchange config command payload line
  match ← accept read line'.buffer.contents (headerLength + minimumInfo) with
  | .error error => return (.error error, line')
  | .ok accepted =>
    let verdict ← checked config.strict accepted
    return (verdict, line')

/-- An exchange never leaves its buffers. -/
@[simp] theorem exchange_eq (config : Config) (command : Command) (payload : Bytes)
    (line : Line τ size) :
    exchange config command payload line = some (line.exchange config command payload) := by
  unfold exchange Line.exchange
  obtain ⟨flushed, link⟩ := Link.flushInput line.link
  cases flushed with
  | error fault => rfl
  | ok _ =>
    simp only [build_eq, Option.bind_eq_bind, Option.bind_some, reply_eq]
    cases request? requestCapacity command .current config.address payload with
    | error error => rfl
    | ok frame =>
      dsimp only
      obtain ⟨outcome, line'⟩ := Line.sendAndAwait config frame { line with link }
      cases outcome <;> rfl

/-- Neither does a request. -/
@[simp] theorem request_eq (config : Config) (command : Command) (payload : Bytes)
    (minimumInfo : Nat) (line : Line τ size) :
    request config command payload minimumInfo line =
      some (line.request config command payload minimumInfo) := by
  simp only [request, Line.request, exchange_eq, accept_eq, checked_eq, Option.bind_eq_bind,
    Option.bind_some]
  cases UpsTelemetry.accept (line.exchange config command payload).1
    (line.exchange config command payload).2.buffer.contents (headerLength + minimumInfo) <;> rfl

/-! ## Attempts -/

/-- Makes an attempt and, while it does not come out as `good`, up to `more` further ones. -/
def retryMore {α : Type} (attempt : σ → Guarded (Except ε α × σ)) (good : α → Bool) :
    (more : Nat) → σ → Guarded (Except ε α × σ)
  | 0, state => attempt state
  | more + 1, state => do
    match ← attempt state with
    | (.ok outcome, state') =>
      if good outcome then return (.ok outcome, state') else retryMore attempt good more state'
    | (.error _, state') => retryMore attempt good more state'

/-- Makes at most `attempts` attempts, but at least one, up to the first that comes out as
`good`. -/
def retry {α : Type} (attempts : Nat) (attempt : σ → Guarded (Except ε α × σ)) (good : α → Bool)
    (state : σ) : Guarded (Except ε α × σ) :=
  retryMore attempt good (attempts - 1) state

/-- Attempts without an access out of range are tried again as any others. -/
theorem retryMore_eq {α : Type} {attempt : σ → Except ε α × σ}
    {guarded : σ → Guarded (Except ε α × σ)}
    (same : ∀ state, guarded state = some (attempt state)) (good : α → Bool) (more : Nat)
    (state : σ) :
    retryMore guarded good more state = some (UpsTelemetry.retryMore attempt good more state) := by
  induction more generalizing state with
  | zero => exact same state
  | succ more ih =>
    rw [retryMore, UpsTelemetry.retryMore, same, Option.bind_eq_bind, Option.bind_some]
    obtain ⟨outcome, state'⟩ := attempt state
    cases outcome with
    | error error => exact ih state'
    | ok outcome =>
      dsimp only
      split
      · rfl
      · exact ih state'

/-- A loop whose attempts never stop the program does not either. -/
theorem retry_eq {α : Type} {attempt : σ → Except ε α × σ}
    {guarded : σ → Guarded (Except ε α × σ)}
    (same : ∀ state, guarded state = some (attempt state)) (attempts : Nat) (good : α → Bool)
    (state : σ) :
    retry attempts guarded good state = some (UpsTelemetry.retry attempts attempt good state) :=
  retryMore_eq same good (attempts - 1) state

/-- One attempt at identification. -/
def identifyOnce (config : Config) (line : Line τ size) :
    Guarded (Except (DriverError ε) Nat × Line τ size) := do
  match ← exchange config .readVendorInfo [] line with
  | (.error error, line') => return (.error error, line')
  | (.ok got, line') =>
    if VendorInfo.minimumLength ≤ got ∧ config.strict = true then do
      let received ← reply line' got
      match ← verify received.raw with
      | .ok () => return (.ok got, line')
      | .error error => return (.error (.frame error), line')
    else return (.ok got, line')

/-- Reads the model name out of a reply. -/
def model (reply : Reply) : Reader String :=
  text reply VendorInfo.modelAt VendorInfo.modelWidth (VendorInfo.modelWidth / 2)

/-- The events of an identification whose last attempt received `got` bytes. -/
def identityOf (config : Config) (line : Line τ size) (got : Nat) :
    Guarded (Except (DriverError ε) (List SinkEvent)) :=
  if got < VendorInfo.minimumLength then some (.error (.insufficientIdentification got))
  else do
    match ← (model (← reply line got)).run with
    | .error error => return .error (.frame error)
    | .ok model => return .ok (Driver.identityEvents model config.address)

/-- An attempt at identification never leaves its buffers. -/
theorem identifyOnce_eq (config : Config) (line : Line τ size) :
    identifyOnce config line = some (Driver.identifyOnce config line) := by
  unfold identifyOnce Driver.identifyOnce
  rw [exchange_eq, Option.bind_eq_bind, Option.bind_some]
  obtain ⟨outcome, line'⟩ := line.exchange config .readVendorInfo []
  cases outcome with
  | error error => rfl
  | ok got =>
    simp only [reply_eq, verify_eq, Option.bind_eq_bind, Option.bind_some, UpsTelemetry.checked]
    by_cases long : VendorInfo.minimumLength ≤ got
    case neg => simp only [long, false_and, if_false, Option.pure_def]
    cases strict : config.strict with
    | false => simp [long, Except.map]
    | true =>
      simp only [long, and_self, if_true]
      cases (line'.reply got).verify <;> rfl

omit [Link τ ε] in
/-- Nor does reading the model out of what was received. -/
@[simp] theorem identityOf_eq (config : Config) (line : Line τ size) (got : Nat) :
    identityOf config line got =
      some (Driver.identityOf config line got : Except (DriverError ε) (List SinkEvent)) := by
  unfold identityOf Driver.identityOf
  by_cases short : got < VendorInfo.minimumLength
  · rw [if_pos short, if_pos short]
  have read : (model (line.reply got)).run = some (VendorInfo.model (line.reply got)) :=
    text_comesTo ..
  rw [if_neg short, if_neg short]
  simp only [reply_eq, read, Option.bind_eq_bind, Option.bind_some]
  cases VendorInfo.model (line.reply got) <;> rfl

/-! ## Operations -/

/-- Asks the UPS who it is. -/
def identify (driver : Driver τ size) :
    Guarded (Except (DriverError ε) (List SinkEvent) × Driver τ size) := do
  let (outcome, line) ←
    retry driver.config.attempts (identifyOnce driver.config) Driver.identifies
      (Line.fresh driver.link size)
  match outcome with
  | .error error => return (.error error, { driver with link := line.link })
  | .ok got =>
    match ← identityOf driver.config line got with
    | .error error => return (.error error, { driver with link := line.link })
    | .ok events => return (.ok events, { driver with link := line.link, state := .initial })

/-- Runs one step of the poll cycle. -/
def poll (driver : Driver τ size) (hasStatus : String → Bool) :
    Guarded (List SinkEvent × Driver τ size) := do
  let state := driver.state
  let (outcome, line) ←
    request driver.config state.command [] state.minimumInfo (Line.fresh driver.link size)
  match outcome with
  | .error _ => return ([.markStale], { driver with link := line.link })
  | .ok reply =>
    match ← (report reply state hasStatus).run with
    | .error _ => return ([.markStale], { driver with link := line.link })
    | .ok report =>
      return (report.events ++ [.markFresh],
        { driver with link := line.link, state := report.next })

/-- Sends a command until the UPS acknowledges it. -/
def sendCommand (driver : Driver τ size) (command : InstantCommand) :
    Guarded (Except (DriverError ε) Unit × Driver τ size) := do
  let (outcome, line) ←
    retry driver.config.attempts
      (request driver.config .remoteControl command.payload acknowledgementInfo)
      Driver.acknowledges (Line.fresh driver.link size)
  match outcome with
  | .error error => return (.error error, { driver with link := line.link })
  | .ok _ => return (.ok (), { driver with link := line.link, state := .initial })

/-- Looks up a command by its name and sends it. -/
def execute (driver : Driver τ size) (name : String) :
    Guarded (Except (DriverError ε) InstantCommand × Driver τ size) :=
  match InstantCommand.ofName? name with
  | none => some (.error .unknownCommand, driver)
  | some command => do
    let (outcome, driver') ← sendCommand driver command
    return (outcome.map fun _ => command, driver')

/-- Carries out the command of a name, and says what became of it. -/
def instant (driver : Driver τ size) (name : String) :
    Guarded (CommandOutcome × Driver τ size) := do
  match ← execute driver name with
  | (.ok _, driver') => return (.handled, driver')
  | (.error .unknownCommand, driver') => return (.unknown, driver')
  | (.error _, driver') => return (.failed, driver')

/-- Identification never stops the program. -/
@[simp] theorem identify_eq (driver : Driver τ size) :
    identify driver = some driver.identify := by
  have tries : retry driver.config.attempts (identifyOnce driver.config) Driver.identifies
      (Line.fresh driver.link size) = some driver.identifyTries :=
    retry_eq (identifyOnce_eq driver.config) ..
  rw [identify, driver.identify_eq, tries, Option.bind_eq_bind, Option.bind_some]
  generalize driver.identifyTries = tried
  obtain ⟨outcome, line⟩ := tried
  cases outcome with
  | error error => rfl
  | ok got =>
    simp only [identityOf_eq, Option.bind_eq_bind, Option.bind_some, Except.bind]
    cases (Driver.identityOf driver.config line got : Except (DriverError ε) _) <;> rfl

/-- Nor does a poll step. -/
@[simp] theorem poll_eq (driver : Driver τ size) (hasStatus : String → Bool) :
    poll driver hasStatus = some (driver.poll hasStatus) := by
  have requested : request driver.config driver.state.command [] driver.state.minimumInfo
      (Line.fresh driver.link size) = some driver.pollOnce := request_eq ..
  rw [poll, Driver.poll, driver.read_eq, requested, Option.bind_eq_bind, Option.bind_some]
  generalize driver.pollOnce = requested
  obtain ⟨outcome, line⟩ := requested
  cases outcome with
  | error error => rfl
  | ok reply =>
    have made : (report reply driver.state hasStatus).run =
        some (Report.ofReply driver.state hasStatus reply) := report_comesTo ..
    simp only [made, Except.bind]
    cases Report.ofReply driver.state hasStatus reply <;> rfl

/-- Nor does sending a command. -/
@[simp] theorem sendCommand_eq (driver : Driver τ size) (command : InstantCommand) :
    sendCommand driver command = some (driver.sendCommand command) := by
  have tries : retry driver.config.attempts
      (request driver.config .remoteControl command.payload acknowledgementInfo)
      Driver.acknowledges (Line.fresh driver.link size) = some (driver.commandTries command) :=
    retry_eq (fun line => request_eq driver.config _ _ _ line) ..
  rw [sendCommand, driver.sendCommand_eq, tries, Option.bind_eq_bind, Option.bind_some]
  generalize driver.commandTries command = tried
  obtain ⟨outcome, line⟩ := tried
  cases outcome <;> rfl

/-- Nor does carrying out the command of a name. -/
@[simp] theorem execute_eq (driver : Driver τ size) (name : String) :
    execute driver name = some (driver.execute name) := by
  unfold execute Driver.execute
  cases InstantCommand.ofName? name with
  | none => rfl
  | some command =>
    simp only [sendCommand_eq, Option.bind_eq_bind, Option.bind_some, Option.pure_def]

/-- Nor does saying what became of it. -/
@[simp] theorem instant_eq (driver : Driver τ size) (name : String) :
    instant driver name = some (driver.instant name) := by
  unfold instant Driver.instant
  rw [execute_eq, Option.bind_eq_bind, Option.bind_some]
  obtain ⟨outcome, driver'⟩ := driver.execute name
  cases outcome with
  | ok _ => rfl
  | error error => cases error <;> rfl

/-! ## Sessions -/

/-- The step that an operation is for a driver, if the host has the given committed status. -/
def step (operation : Operation) (hasStatus : String → Bool) (driver : Driver τ size) :
    Guarded (Step ε × Driver τ size) :=
  match operation with
  | .identify => do
    match ← identify driver with
    | (.ok events, driver') => return (⟨.identified (.ok ()), events⟩, driver')
    | (.error error, driver') => return (⟨.identified (.error error), []⟩, driver')
  | .poll => do
    let (events, driver') ← poll driver hasStatus
    return (⟨.polled driver'.state, events⟩, driver')
  | .instant name => do
    let (outcome, driver') ← instant driver name
    return (⟨.commanded outcome, []⟩, driver')
  | .execute name => do
    let (outcome, driver') ← execute driver name
    return (⟨.executed outcome, []⟩, driver')
  | .send command => do
    let (outcome, driver') ← sendCommand driver command
    return (⟨.sent outcome, []⟩, driver')
  | .shutDown => some (⟨.shutDown, []⟩, driver.shutDown)

/-- So no operation does. -/
@[simp] theorem step_eq (operation : Operation) (hasStatus : String → Bool)
    (driver : Driver τ size) :
    step operation hasStatus driver = some (Session.step operation hasStatus driver) := by
  cases operation with
  | identify =>
    simp only [step, Session.step, identify_eq, Option.bind_eq_bind, Option.bind_some]
    obtain ⟨outcome, driver'⟩ := driver.identify
    cases outcome <;> rfl
  | poll => simp only [step, Session.step, poll_eq, Option.bind_eq_bind, Option.bind_some]; rfl
  | instant name =>
    simp only [step, Session.step, instant_eq, Option.bind_eq_bind, Option.bind_some]
    rfl
  | execute name =>
    simp only [step, Session.step, execute_eq, Option.bind_eq_bind, Option.bind_some]
    rfl
  | send command =>
    simp only [step, Session.step, sendCommand_eq, Option.bind_eq_bind, Option.bind_some]
    rfl
  | shutDown => rfl

/-- Does a list of operations, one after the other, and tells the host. -/
def run [TelemetrySink σ] : List Operation → Session τ σ size →
    Guarded (List (Step ε) × Session τ σ size)
  | [], session => some ([], session)
  | operation :: rest, session => do
    let (result, driver) ←
      step operation (TelemetrySink.hasStatus session.sink) session.driver
    let (results, final) ← run rest ⟨driver, TelemetrySink.emit result.events session.sink⟩
    return (result :: results, final)

/-- A session has no access out of range. -/
theorem run_eq [TelemetrySink σ] (operations : List Operation) (session : Session τ σ size) :
    run operations session = some (Session.run operations session) := by
  induction operations generalizing session with
  | nil => rfl
  | cons operation rest ih =>
    rw [run, step_eq, Option.bind_eq_bind, Option.bind_some]
    dsimp only
    rw [ih]
    rfl

end Guarded

end UpsTelemetry
