import UpsTelemetry.Driver.Session

/-!
# Links that agree

A driver does exchanges over its link and nothing else. If each call of an exchange comes to the
same over two links, then so does every operation of a driver, and every run of a session.

How the states of the links correspond is up to them. Between exchanges they may correspond less
than within one (`idle`, `busy`): an exchange begins by throwing away input, so what input that is
need not be the same.

* `LinksAgree`: what is asked of the two links.
* `Line.exchange_agree`, `Driver.identify_agree`, …, `Session.step_agree`: one lemma for each
  function of the driver.
* `Session.perform_agree`: an operation comes to the same in two sessions that correspond, and they
  still correspond afterwards. `Session.run_agree`: so does a run.
-/

namespace UpsTelemetry

/-- Two computations came to the same, and the states that they left correspond. -/
structure Agree {ρ α β : Type} (corresponds : α → β → Prop) (first : ρ × α) (second : ρ × β) :
    Prop where
  /-- The results are the same. -/
  result_eq : first.1 = second.1
  /-- The states correspond. -/
  states : corresponds first.2 second.2

variable {τ τ' ε σ : Type} {size : Nat}

/-! ## Trying again -/

section retry

variable {S S' α : Type} {corresponds : S → S' → Prop} {attempt : S → Except ε α × S}
  {attempt' : S' → Except ε α × S'} (good : α → Bool)
  (attempts_agree : ∀ state state', corresponds state state' →
    Agree corresponds (attempt state) (attempt' state'))

include attempts_agree

/-- Two attempts that agree, tried again in states that correspond, agree in the end. -/
theorem retryMore_agree (more : Nat) {state : S} {state' : S'} (same : corresponds state state') :
    Agree corresponds (retryMore attempt good more state)
      (retryMore attempt' good more state') := by
  induction more generalizing state state' with
  | zero => exact attempts_agree state state' same
  | succ more ih =>
    have agree := attempts_agree state state' same
    rw [retryMore, retryMore]
    generalize attempt state = result at agree ⊢
    generalize attempt' state' = result' at agree ⊢
    obtain ⟨outcome, after⟩ := result
    obtain ⟨outcome', after'⟩ := result'
    obtain rfl : outcome = outcome' := agree.result_eq
    cases outcome with
    | error error => exact ih agree.states
    | ok outcome =>
      dsimp only
      split
      · exact ⟨rfl, agree.states⟩
      · exact ih agree.states

/-- Trying again comes to the same if each attempt does. -/
theorem retry_agree (attempts : Nat) {state : S} {state' : S'} (same : corresponds state state') :
    Agree corresponds (retry attempts attempt good state) (retry attempts attempt' good state') :=
  retryMore_agree good attempts_agree (attempts - 1) same

end retry

variable [Link τ ε] [Link τ' ε]

/-! ## Exchanges -/

/-- The calls of an exchange come to the same over two links, if their states correspond as `idle`
says before it and as `busy` says from its first call on. -/
structure LinksAgree (idle busy : τ → τ' → Prop) : Prop where
  /-- An exchange may end at any point. -/
  idle_of_busy : ∀ {link link'}, busy link link' → idle link link'
  flushInput : ∀ {link link'}, idle link link' →
    Agree busy (Link.flushInput link) (Link.flushInput link')
  send : ∀ (frame : Bytes) {link link'}, busy link link' →
    Agree busy (Link.send frame link) (Link.send frame link')
  receive : ∀ {size : Nat} (buffer : ReceiveBuffer size) (timeoutMillis : Nat) {link link'},
    busy link link' →
    Agree (fun after after' => after.1 = after'.1 ∧ busy after.2 after'.2)
      (Link.receive buffer timeoutMillis link) (Link.receive buffer timeoutMillis link')

omit [Link τ ε] [Link τ' ε] in
/-- Two lines correspond if their links do and their buffers are the same. -/
structure Line.Corresponds (links : τ → τ' → Prop) (line : Line τ size) (line' : Line τ' size) :
    Prop where
  link : links line.link line'.link
  buffer_eq : line.buffer = line'.buffer

variable {idle busy : τ → τ' → Prop} (agree : LinksAgree idle busy)

namespace Line

variable (config : Config) {line : Line τ size} {line' : Line τ' size}

include agree

/-- With a reply under way that both links have, the same is received over both. -/
theorem await_agree (same : Corresponds busy line line') :
    Agree (Corresponds idle) (line.await config) (line'.await config) := by
  obtain ⟨link, buffer⟩ := line
  obtain ⟨link', buffer'⟩ := line'
  obtain ⟨links, rfl⟩ := same
  have received := agree.receive buffer config.timeoutMillis links
  unfold await
  dsimp only
  generalize Link.receive buffer config.timeoutMillis link = result at received ⊢
  generalize Link.receive buffer config.timeoutMillis link' = result' at received ⊢
  obtain ⟨outcome, after, link⟩ := result
  obtain ⟨outcome', after', link'⟩ := result'
  obtain ⟨rfl, rfl, links⟩ := received
  cases outcome with
  | error fault => exact ⟨rfl, agree.idle_of_busy links, rfl⟩
  | ok got =>
    dsimp only
    split
    · exact ⟨rfl, agree.idle_of_busy links, rfl⟩
    · exact ⟨rfl, agree.idle_of_busy links, rfl⟩

/-- So it is if a frame is sent first. -/
theorem sendAndAwait_agree (frame : Bytes) (same : Corresponds busy line line') :
    Agree (Corresponds idle) (line.sendAndAwait config frame)
      (line'.sendAndAwait config frame) := by
  obtain ⟨link, buffer⟩ := line
  obtain ⟨link', buffer'⟩ := line'
  obtain ⟨links, rfl⟩ := same
  have sent := agree.send frame links
  unfold sendAndAwait
  dsimp only
  generalize Link.send frame link = result at sent ⊢
  generalize Link.send frame link' = result' at sent ⊢
  obtain ⟨outcome, link⟩ := result
  obtain ⟨outcome', link'⟩ := result'
  obtain ⟨rfl, links⟩ := sent
  cases outcome with
  | error fault => exact ⟨rfl, agree.idle_of_busy links, rfl⟩
  | ok written =>
    dsimp only
    split
    · exact ⟨rfl, agree.idle_of_busy links, rfl⟩
    · exact await_agree agree config ⟨links, rfl⟩

/-- Two lines that correspond while nothing is under way have the same exchanges. -/
theorem exchange_agree (command : Command) (payload : Bytes)
    (same : Corresponds idle line line') :
    Agree (Corresponds idle) (line.exchange config command payload)
      (line'.exchange config command payload) := by
  obtain ⟨link, buffer⟩ := line
  obtain ⟨link', buffer'⟩ := line'
  obtain ⟨links, rfl⟩ := same
  have flushed := agree.flushInput links
  unfold exchange
  dsimp only
  generalize Link.flushInput link = result at flushed ⊢
  generalize Link.flushInput link' = result' at flushed ⊢
  obtain ⟨outcome, link⟩ := result
  obtain ⟨outcome', link'⟩ := result'
  obtain ⟨rfl, links⟩ := flushed
  cases outcome with
  | error fault => exact ⟨rfl, agree.idle_of_busy links, rfl⟩
  | ok done =>
    dsimp only
    cases Frame.request? Frame.requestCapacity command .current config.address payload with
    | error error => exact ⟨rfl, agree.idle_of_busy links, rfl⟩
    | ok frame => exact sendAndAwait_agree agree config frame ⟨links, rfl⟩

/-- Two such lines answer a request in the same way. -/
theorem request_agree (command : Command) (payload : Bytes) (minimumInfo : Nat)
    (same : Corresponds idle line line') :
    Agree (Corresponds idle) (line.request config command payload minimumInfo)
      (line'.request config command payload minimumInfo) := by
  have exchanged := exchange_agree agree config command payload same
  unfold request
  generalize line.exchange config command payload = result at exchanged ⊢
  generalize line'.exchange config command payload = result' at exchanged ⊢
  obtain ⟨outcome, after⟩ := result
  obtain ⟨outcome', after'⟩ := result'
  obtain ⟨rfl, same⟩ := exchanged
  dsimp only
  rw [same.buffer_eq]
  exact ⟨rfl, same⟩

end Line

/-! ## Operations of a driver -/

namespace Driver

omit [Link τ ε] [Link τ' ε] in
/-- Two drivers correspond if their links do and all else is the same. -/
structure Corresponds (links : τ → τ' → Prop) (driver : Driver τ size)
    (driver' : Driver τ' size) : Prop where
  link : links driver.link driver'.link
  config_eq : driver.config = driver'.config
  state_eq : driver.state = driver'.state

variable {driver : Driver τ size} {driver' : Driver τ' size}

omit [Link τ ε] [Link τ' ε] in
/-- Two drivers that correspond begin an operation on lines that do. -/
theorem Corresponds.fresh {links : τ → τ' → Prop} (same : Corresponds links driver driver') :
    Line.Corresponds links (Line.fresh driver.link size) (Line.fresh driver'.link size) :=
  ⟨same.link, rfl⟩

include agree

/-- Two such drivers read the same report, or fail in the same way. -/
theorem read_agree (hasStatus : String → Bool) (same : Corresponds idle driver driver') :
    Agree idle (driver.read hasStatus) (driver'.read hasStatus) := by
  unfold read
  dsimp only
  rw [← same.config_eq, ← same.state_eq]
  have requested := Line.request_agree agree driver.config driver.state.command []
    driver.state.minimumInfo same.fresh
  generalize Line.request driver.config _ _ _ (Line.fresh driver.link size) = result
    at requested ⊢
  generalize Line.request driver.config _ _ _ (Line.fresh driver'.link size) = result'
    at requested ⊢
  obtain ⟨outcome, line⟩ := result
  obtain ⟨outcome', line'⟩ := result'
  obtain ⟨rfl, lines⟩ := requested
  exact ⟨rfl, lines.link⟩

/-- A poll step tells both hosts the same, and both drivers go on to the same state. -/
theorem poll_agree (hasStatus : String → Bool) (same : Corresponds idle driver driver') :
    Agree (Corresponds idle) (driver.poll hasStatus) (driver'.poll hasStatus) := by
  have reads := read_agree agree hasStatus same
  unfold poll
  generalize driver.read hasStatus = result at reads ⊢
  generalize driver'.read hasStatus = result' at reads ⊢
  obtain ⟨outcome, link⟩ := result
  obtain ⟨outcome', link'⟩ := result'
  obtain ⟨rfl, links⟩ := reads
  cases outcome with
  | error error => exact ⟨rfl, links, same.config_eq, same.state_eq⟩
  | ok report => exact ⟨rfl, links, same.config_eq, rfl⟩

/-- An attempt at identification is the same on both lines. -/
theorem identifyOnce_agree (config : Config) {line : Line τ size} {line' : Line τ' size}
    (same : Line.Corresponds idle line line') :
    Agree (Line.Corresponds idle) (identifyOnce config line) (identifyOnce config line') := by
  have exchanged := Line.exchange_agree agree config .readVendorInfo [] same
  unfold identifyOnce
  generalize line.exchange config .readVendorInfo [] = result at exchanged ⊢
  generalize line'.exchange config .readVendorInfo [] = result' at exchanged ⊢
  obtain ⟨outcome, after⟩ := result
  obtain ⟨outcome', after'⟩ := result'
  obtain ⟨rfl, lines⟩ := exchanged
  cases outcome with
  | error error => exact ⟨rfl, lines⟩
  | ok got =>
    have replies : after.reply got = after'.reply got := by
      unfold Line.reply
      rw [lines.buffer_eq]
    dsimp only
    rw [replies]
    split
    · exact ⟨rfl, lines⟩
    · exact ⟨rfl, lines⟩

/-- Identification is the same for both drivers. -/
theorem identify_agree (same : Corresponds idle driver driver') :
    Agree (Corresponds idle) driver.identify driver'.identify := by
  have tried := retry_agree (fun got => decide (VendorInfo.minimumLength ≤ got))
    (fun line line' => identifyOnce_agree agree driver.config) driver.config.attempts same.fresh
  unfold identify
  rw [← same.config_eq]
  generalize retry _ (identifyOnce driver.config) _ (Line.fresh driver.link size) = result
    at tried ⊢
  generalize retry _ (identifyOnce driver.config) _ (Line.fresh driver'.link size) = result'
    at tried ⊢
  obtain ⟨outcome, line⟩ := result
  obtain ⟨outcome', line'⟩ := result'
  obtain ⟨rfl, lines⟩ := tried
  have told : outcome.bind (identityOf driver.config line) =
      outcome.bind (identityOf driver.config line') := by
    unfold identityOf Line.reply
    rw [lines.buffer_eq]
  dsimp only
  rw [told]
  cases outcome.bind (identityOf driver.config line') with
  | error error => exact ⟨rfl, lines.link, rfl, same.state_eq⟩
  | ok events => exact ⟨rfl, lines.link, rfl, rfl⟩

/-- Both drivers send a command with the same success. -/
theorem sendCommand_agree (command : InstantCommand) (same : Corresponds idle driver driver') :
    Agree (Corresponds idle) (driver.sendCommand command) (driver'.sendCommand command) := by
  have tried := retry_agree (fun _ : Reply => true)
    (fun line line' => Line.request_agree agree driver.config .remoteControl command.payload
      acknowledgementInfo) driver.config.attempts same.fresh
  unfold sendCommand
  rw [← same.config_eq]
  generalize retry _ _ _ (Line.fresh driver.link size) = result at tried ⊢
  generalize retry _ _ _ (Line.fresh driver'.link size) = result' at tried ⊢
  obtain ⟨outcome, line⟩ := result
  obtain ⟨outcome', line'⟩ := result'
  obtain ⟨rfl, lines⟩ := tried
  cases outcome with
  | error error => exact ⟨rfl, lines.link, rfl, same.state_eq⟩
  | ok reply => exact ⟨rfl, lines.link, rfl, rfl⟩

/-- Both carry out the command of a name with the same success. -/
theorem execute_agree (name : String) (same : Corresponds idle driver driver') :
    Agree (Corresponds idle) (driver.execute name) (driver'.execute name) := by
  unfold execute
  cases InstantCommand.ofName? name with
  | none => exact ⟨rfl, same⟩
  | some command =>
    obtain ⟨sent, drivers⟩ := sendCommand_agree agree command same
    exact ⟨congrArg (Except.map fun _ => command) sent, drivers⟩

/-- Both say the same of it. -/
theorem instant_agree (name : String) (same : Corresponds idle driver driver') :
    Agree (Corresponds idle) (driver.instant name) (driver'.instant name) := by
  have executed := execute_agree agree name same
  unfold instant
  generalize driver.execute name = result at executed ⊢
  generalize driver'.execute name = result' at executed ⊢
  obtain ⟨outcome, after⟩ := result
  obtain ⟨outcome', after'⟩ := result'
  obtain ⟨rfl, drivers⟩ := executed
  cases outcome with
  | ok command => exact ⟨rfl, drivers⟩
  | error error => cases error <;> exact ⟨rfl, drivers⟩

end Driver

/-! ## Sessions -/

namespace Session

omit [Link τ ε] [Link τ' ε] in
/-- Two sessions correspond if their drivers do and their hosts are the same. -/
structure Corresponds (links : τ → τ' → Prop) (session : Session τ σ size)
    (session' : Session τ' σ size) : Prop where
  driver : Driver.Corresponds links session.driver session'.driver
  sink_eq : session.sink = session'.sink

include agree

/-- **The step.** Every operation comes to the same with both drivers, and leaves them so that they
correspond again. -/
theorem step_agree (operation : Operation) (hasStatus : String → Bool) {driver : Driver τ size}
    {driver' : Driver τ' size} (same : Driver.Corresponds idle driver driver') :
    Agree (Driver.Corresponds idle) (step operation hasStatus driver)
      (step operation hasStatus driver') := by
  cases operation with
  | identify =>
    have identified := Driver.identify_agree agree same
    unfold step
    dsimp only
    generalize driver.identify = result at identified ⊢
    generalize driver'.identify = result' at identified ⊢
    obtain ⟨outcome, after⟩ := result
    obtain ⟨outcome', after'⟩ := result'
    obtain ⟨rfl, drivers⟩ := identified
    cases outcome with
    | error error => exact ⟨rfl, drivers⟩
    | ok events => exact ⟨rfl, drivers⟩
  | poll =>
    obtain ⟨told, drivers⟩ := Driver.poll_agree agree hasStatus same
    refine ⟨?_, drivers⟩
    unfold step
    dsimp only
    rw [told, drivers.state_eq]
  | instant name =>
    obtain ⟨tried, drivers⟩ := Driver.instant_agree agree name same
    exact ⟨congrArg (fun outcome => Step.mk (.commanded outcome) []) tried, drivers⟩
  | execute name =>
    obtain ⟨executed, drivers⟩ := Driver.execute_agree agree name same
    exact ⟨congrArg (fun outcome => Step.mk (.executed outcome) []) executed, drivers⟩
  | send command =>
    obtain ⟨sent, drivers⟩ := Driver.sendCommand_agree agree command same
    exact ⟨congrArg (fun outcome => Step.mk (.sent outcome) []) sent, drivers⟩
  | shutDown => exact ⟨rfl, same⟩

variable [TelemetrySink σ]

/-- An operation comes to the same in two sessions that correspond, and they still do
afterwards. -/
theorem perform_agree (operation : Operation) {session : Session τ σ size}
    {session' : Session τ' σ size} (same : Corresponds idle session session') :
    Agree (Corresponds idle) (session.perform operation) (session'.perform operation) := by
  have stepped := step_agree agree operation (TelemetrySink.hasStatus session.sink) same.driver
  unfold perform
  rw [← same.sink_eq]
  generalize step operation _ session.driver = result at stepped ⊢
  generalize step operation _ session'.driver = result' at stepped ⊢
  obtain ⟨told, driver⟩ := result
  obtain ⟨told', driver'⟩ := result'
  obtain ⟨rfl, drivers⟩ := stepped
  exact ⟨rfl, drivers, rfl⟩

/-- A run comes to the same in two sessions that correspond. -/
theorem run_agree (operations : List Operation) {session : Session τ σ size}
    {session' : Session τ' σ size} (same : Corresponds idle session session') :
    Agree (Corresponds idle) (run operations session) (run operations session') := by
  induction operations generalizing session session' with
  | nil => exact ⟨rfl, same⟩
  | cons operation rest ih =>
    have first := perform_agree agree operation same
    have others := ih first.states
    rw [run_cons, run_cons, first.result_eq]
    exact ⟨congrArg _ others.result_eq, others.states⟩

end Session

end UpsTelemetry
