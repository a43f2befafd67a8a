import Mathlib.Data.List.Infix
import UpsTelemetry.Bench.ScriptedLink
import UpsTelemetry.Bench.SimulatedUps
import UpsTelemetry.Proofs.Driver.PollStep
import UpsTelemetry.Proofs.Telemetry.Advance
import UpsTelemetry.Sink.Recorder

/-!
# The poll cycle over whole runs

The state to poll next changes in three ways only: a poll step that succeeds goes on, an
identification or an acknowledged command starts the cycle over, and everything else keeps it.
`Transition` has one constructor for each, and `transition_perform` says that every operation on
every session is one of them. `Told` says the same of what the host is told (`told_perform`).

From this follows what a host may rely on in a run. Once the cycle was started over, the frames that
are read are those of the system parameters, of the warnings and of the on/off status, in this
order, whatever the UPS flags and however often reading fails in between (`InOrder`,
`framesRead_inOrder`).
-/

namespace UpsTelemetry

variable {τ ε σ : Type} {size : Nat} [Link τ ε] [TelemetrySink σ]

/-! ## The state after an operation of the driver -/

namespace Driver

omit [Link τ ε] in
/-- Of a UPS that was identified only variables are published. -/
theorem isPublication_identityEvents {model : String} {address : Address} :
    ∀ event ∈ identityEvents model address, event.isPublication = true := by
  intro event mem
  simp only [identityEvents, List.mem_cons, List.not_mem_nil, or_false] at mem
  rcases mem with rfl | rfl | rfl <;> rfl

/-- What an identification comes to. -/
theorem identify_cases (driver : Driver τ size) :
    (∃ model, driver.identify.1 = .ok (identityEvents model driver.config.address) ∧
        driver.identify.2.state = .parameters) ∨
      ∃ error, driver.identify.1 = .error error ∧ driver.identify.2.state = driver.state := by
  unfold identify
  generalize retry driver.config.attempts (identifyOnce driver.config)
    (fun got => decide (VendorInfo.minimumLength ≤ got)) (Line.fresh driver.link size) = tried
  obtain ⟨outcome, line⟩ := tried
  cases identified : outcome.bind (identityOf driver.config line) with
  | error error => exact .inr ⟨error, by simp only [identified], by simp only [identified]⟩
  | ok events =>
    cases outcome with
    | error error => cases identified
    | ok got =>
      change identityOf driver.config line got = .ok events at identified
      have identified' := identified
      unfold identityOf at identified
      split at identified
      · cases identified
      · split at identified
        · cases identified
        · next model read =>
          obtain rfl := Except.ok.inj identified
          refine .inl ⟨model, ?_, ?_⟩
          · simp only [Except.bind, identified']
          · simp only [Except.bind, identified']
            rfl

/-- What sending a command comes to. -/
theorem sendCommand_cases (driver : Driver τ size) (command : InstantCommand) :
    ((driver.sendCommand command).1 = .ok () ∧
        (driver.sendCommand command).2.state = .parameters) ∨
      ∃ error, (driver.sendCommand command).1 = .error error ∧
        (driver.sendCommand command).2.state = driver.state := by
  unfold sendCommand
  generalize retry driver.config.attempts
    (fun line : Line τ size =>
      line.request driver.config .remoteControl command.payload acknowledgementInfo)
    (fun _ => true) (Line.fresh driver.link size) = tried
  obtain ⟨outcome, line⟩ := tried
  cases outcome with
  | error error => exact .inr ⟨error, rfl, rfl⟩
  | ok reply => exact .inl ⟨rfl, rfl⟩

/-- What carrying out the command of a name comes to. -/
theorem execute_cases (driver : Driver τ size) (name : String) :
    (∃ command, (driver.execute name).1 = .ok command ∧
        (driver.execute name).2.state = .parameters) ∨
      ∃ error, (driver.execute name).1 = .error error ∧
        (driver.execute name).2.state = driver.state := by
  unfold execute
  cases InstantCommand.ofName? name with
  | none => exact .inr ⟨.unknownCommand, rfl, rfl⟩
  | some command =>
    rcases driver.sendCommand_cases command with ⟨sent, restarted⟩ | ⟨error, sent, kept⟩
    · exact .inl ⟨command, by simp only [sent]; rfl, restarted⟩
    · exact .inr ⟨error, by simp only [sent]; rfl, kept⟩

/-- What an instant command comes to. -/
theorem instant_cases (driver : Driver τ size) (name : String) :
    ((driver.instant name).1 = .handled ∧ (driver.instant name).2.state = .parameters) ∨
      ((driver.instant name).1 ≠ .handled ∧
        (driver.instant name).2.state = driver.state) := by
  unfold instant
  rcases driver.execute_cases name with ⟨command, executed, restarted⟩ | ⟨error, executed, kept⟩
  · rw [← Prod.eta (driver.execute name), executed]
    exact .inl ⟨rfl, restarted⟩
  · rw [← Prod.eta (driver.execute name), executed]
    cases error <;> exact .inr ⟨by simp, kept⟩

end Driver

/-! ## Steps -/

/-- Whether a step starts the cycle over: the UPS was identified, or it acknowledged a command. -/
def Step.restarts (step : Step ε) : Bool :=
  match step.outcome with
  | .identified (.ok ()) => true
  | .commanded .handled => true
  | .executed (.ok _) => true
  | .sent (.ok ()) => true
  | _ => false

/-- Whether a step is a poll step that succeeded. -/
def Step.refreshes (step : Step ε) : Bool :=
  decide (.markFresh ∈ step.events)

namespace Session

/-- The ways in which an operation may come out, and the state to poll next in each. -/
inductive Transition (session : Session τ σ size) : Operation → Step ε → PollState → Prop
  /-- An identification starts the cycle over. -/
  | identified {model : String} :
      Transition session .identify
        ⟨.identified (.ok ()), Driver.identityEvents model session.driver.config.address⟩
        .parameters
  /-- An identification that fails keeps the state. -/
  | unidentified {error : DriverError ε} :
      Transition session .identify ⟨.identified (.error error), []⟩ session.driver.state
  /-- A poll step that reads a reply goes where the reply leads. -/
  | advanced {reply : Reply} {events : List SinkEvent} {next : PollState}
      (accepts : (Line.fresh session.driver.link size).Accepts session.driver.config
        session.driver.state.command [] session.driver.state.minimumInfo reply)
      (advance : Advance (TelemetrySink.hasStatus session.sink) reply session.driver.state next) :
      Transition session .poll ⟨.polled next, events ++ [.markFresh]⟩ next
  /-- A poll step that fails keeps the state. -/
  | stalled :
      Transition session .poll ⟨.polled session.driver.state, [.markStale]⟩ session.driver.state
  /-- An instant command that is acknowledged starts the cycle over. -/
  | handled {name : String} :
      Transition session (.instant name) ⟨.commanded .handled, []⟩ .parameters
  /-- An instant command that fails, or is unknown, keeps the state. -/
  | unhandled {name : String} {outcome : CommandOutcome} (unhandled : outcome ≠ .handled) :
      Transition session (.instant name) ⟨.commanded outcome, []⟩ session.driver.state
  /-- A named command that is acknowledged starts the cycle over. -/
  | executed {name : String} {command : InstantCommand} :
      Transition session (.execute name) ⟨.executed (.ok command), []⟩ .parameters
  /-- A named command that fails, or is unknown, keeps the state. -/
  | unexecuted {name : String} {error : DriverError ε} :
      Transition session (.execute name) ⟨.executed (.error error), []⟩ session.driver.state
  /-- A command that is acknowledged starts the cycle over. -/
  | sent {command : InstantCommand} :
      Transition session (.send command) ⟨.sent (.ok ()), []⟩ .parameters
  /-- A command that fails keeps the state. -/
  | unsent {command : InstantCommand} {error : DriverError ε} :
      Transition session (.send command) ⟨.sent (.error error), []⟩ session.driver.state
  /-- The request to shut down keeps the state. -/
  | shutDown : Transition session .shutDown ⟨.shutDown, []⟩ session.driver.state

/-- A poll step goes on to the state that its reply calls for, or stays in its own. -/
theorem transition_poll (session : Session τ σ size) :
    session.Transition .poll (session.perform .poll).1 (session.perform .poll).2.driver.state := by
  by_cases reads : ∃ report, session.driver.Reads (TelemetrySink.hasStatus session.sink) report
  · obtain ⟨report, reply, accepts, made⟩ := reads
    obtain ⟨link, performed⟩ := perform_poll_of_reads ⟨reply, accepts, made⟩
    rw [performed]
    exact .advanced accepts (Report.advance_of_ofReply made)
  · obtain ⟨link, polled⟩ := Driver.poll_of_not_reads (not_exists.1 reads)
    rw [perform_poll polled]
    exact .stalled

/-- Every operation comes out in one of these ways. -/
theorem transition_perform (session : Session τ σ size) (operation : Operation) :
    session.Transition operation (session.perform operation).1
      (session.perform operation).2.driver.state := by
  cases operation with
  | identify =>
    rcases session.driver.identify_cases with ⟨model, outcome, state⟩ | ⟨error, outcome, state⟩
    · simp only [perform, step]
      rw [← Prod.eta session.driver.identify, outcome]
      simp only [state]
      exact .identified
    · simp only [perform, step]
      rw [← Prod.eta session.driver.identify, outcome]
      simp only [state]
      exact .unidentified
  | poll => exact session.transition_poll
  | instant name =>
    rcases session.driver.instant_cases name with ⟨outcome, state⟩ | ⟨outcome, state⟩
    · simp only [perform, step, outcome, state]
      exact .handled
    · simp only [perform, step, state]
      exact .unhandled outcome
  | execute name =>
    rcases session.driver.execute_cases name with
      ⟨command, outcome, state⟩ | ⟨error, outcome, state⟩
    · simp only [perform, step, outcome, state]
      exact .executed
    · simp only [perform, step, outcome, state]
      exact .unexecuted
  | send command =>
    rcases session.driver.sendCommand_cases command with ⟨outcome, state⟩ | ⟨error, outcome, state⟩
    · simp only [perform, step, outcome, state]
      exact .sent
    · simp only [perform, step, outcome, state]
      exact .unsent
  | shutDown => exact .shutDown

/-- What the host is told of an operation. -/
inductive Told (session : Session τ σ size) : Operation → List SinkEvent → Prop
  /-- Of a poll step that reads a reply: what is in it, and that the data is fresh. -/
  | reported {reply : Reply} {report : Report}
      (accepts : (Line.fresh session.driver.link size).Accepts session.driver.config
        session.driver.state.command [] session.driver.state.minimumInfo reply)
      (made : Report.ofReply session.driver.state (TelemetrySink.hasStatus session.sink) reply =
        .ok report) :
      Told session .poll (report.events ++ [.markFresh])
  /-- Of a poll step that fails: that the data is old. -/
  | stalled
      (unread : ∀ report,
        ¬ session.driver.Reads (TelemetrySink.hasStatus session.sink) report) :
      Told session .poll [.markStale]
  /-- Of an identification: who the UPS is. -/
  | identified {model : String} :
      Told session .identify (Driver.identityEvents model session.driver.config.address)
  /-- Of anything else: nothing. -/
  | nothing {operation : Operation} (other : operation ≠ .poll) : Told session operation []

/-- Every operation tells the host what belongs to it, and nothing else. -/
theorem told_perform (session : Session τ σ size) (operation : Operation) :
    session.Told operation (session.perform operation).1.events := by
  by_cases isPoll : operation = .poll
  · subst isPoll
    by_cases reads : ∃ report,
        session.driver.Reads (TelemetrySink.hasStatus session.sink) report
    · obtain ⟨report, reply, accepts, made⟩ := reads
      obtain ⟨link, performed⟩ := perform_poll_of_reads ⟨reply, accepts, made⟩
      rw [performed]
      exact .reported accepts made
    · rw [(stalled_of_not_reads (not_exists.1 reads)).events_eq]
      exact .stalled (not_exists.1 reads)
  · have transition := session.transition_perform operation
    generalize (session.perform operation).2.driver.state = next at transition
    generalize (session.perform operation).1 = step at transition ⊢
    cases transition with
    | identified => exact .identified
    | advanced => exact absurd rfl isPoll
    | stalled => exact absurd rfl isPoll
    | _ => exact .nothing isPoll

/-- A step starts the cycle over, reads a frame and goes on, or keeps the state. -/
theorem Transition.effect {session : Session τ σ size} {operation : Operation} {step : Step ε}
    {next : PollState} (transition : session.Transition operation step next) :
    (step.restarts = true ∧ step.refreshes = false ∧ next = .parameters) ∨
      (step.restarts = false ∧ step.refreshes = true ∧
        ∃ reply, Advance (TelemetrySink.hasStatus session.sink) reply session.driver.state next) ∨
      (step.restarts = false ∧ step.refreshes = false ∧ next = session.driver.state) := by
  cases transition with
  | identified =>
    refine .inl ⟨rfl, ?_, rfl⟩
    simp [Step.refreshes, Driver.identityEvents, SinkEvent.publish]
  | advanced accepts advance => exact .inr (.inl ⟨rfl, by simp [Step.refreshes], _, advance⟩)
  | @unhandled name outcome unhandled =>
    refine .inr (.inr ⟨?_, rfl, rfl⟩)
    cases outcome with
    | handled => exact absurd rfl unhandled
    | failed => rfl
    | unknown => rfl
  | handled => exact .inl ⟨rfl, rfl, rfl⟩
  | executed => exact .inl ⟨rfl, rfl, rfl⟩
  | sent => exact .inl ⟨rfl, rfl, rfl⟩
  | unidentified => exact .inr (.inr ⟨rfl, rfl, rfl⟩)
  | stalled => exact .inr (.inr ⟨rfl, rfl, rfl⟩)
  | unexecuted => exact .inr (.inr ⟨rfl, rfl, rfl⟩)
  | unsent => exact .inr (.inr ⟨rfl, rfl, rfl⟩)
  | shutDown => exact .inr (.inr ⟨rfl, rfl, rfl⟩)

/-- A poll step ends with the system parameters only if it began with them. -/
theorem Transition.parameters_of_poll {session : Session τ σ size} {step : Step ε}
    {next : PollState} (transition : session.Transition .poll step next)
    (ends : next = .parameters) : session.driver.state = .parameters := by
  cases transition with
  | advanced accepts advance => exact absurd ends advance.next_ne_parameters
  | stalled => exact ends

/-! ## Runs -/

/-- The frames that the successful poll steps of a run read, in order. -/
def framesRead : List Operation → Session τ σ size → List PollState
  | [], _ => []
  | operation :: rest, session =>
    let (step, session') := session.perform operation
    if step.refreshes then session.driver.state :: framesRead rest session'
    else framesRead rest session'

/-- A run that ends by starting the cycle over reads the system parameters next. -/
theorem parameters_of_run {operations : List Operation} {session : Session τ σ size}
    {step : Step ε} (last : (run operations session).1.getLast? = some step)
    (restarts : step.restarts = true) :
    (run operations session).2.driver.state = .parameters := by
  rcases List.eq_nil_or_concat operations with rfl | ⟨before, operation, rfl⟩
  · simp [run] at last
  · rw [List.concat_eq_append, run_append] at last ⊢
    generalize (run before session).2 = reached at last ⊢
    simp only [run, List.getLast?_concat, Option.some.injEq] at last ⊢
    subst last
    rcases (reached.transition_perform operation).effect with
      ⟨-, -, next⟩ | ⟨stays, -, -⟩ | ⟨stays, -, -⟩
    · exact next
    · rw [restarts] at stays
      cases stays
    · rw [restarts] at stays
      cases stays

end Session

/-! ## The order of frames -/

/-- The frames that are read next for certain, as long as the cycle is not started over. -/
def PollState.ahead : PollState → List PollState
  | parameters => [parameters, warning, onOff]
  | warning => [warning, onOff]
  | onOff => [onOff]
  | analog => []

/-- What is certain stays certain when the cycle goes on. -/
theorem Advance.ahead_eq {hasStatus : String → Bool} {reply : Reply} {state next : PollState}
    (advance : Advance hasStatus reply state next) :
    state.ahead = [] ∨ ∃ rest, state.ahead = state :: rest ∧ rest <+: next.ahead := by
  cases advance with
  | parameters => exact .inr ⟨_, rfl, List.prefix_refl _⟩
  | warning => exact .inr ⟨_, rfl, List.prefix_refl _⟩
  | onOff read leads => exact .inr ⟨_, rfl, List.nil_prefix⟩
  | missed read contradicts => exact .inl rfl
  | analog read agrees leads => exact .inl rfl

/-- The frames read are those expected, as far as both go. -/
def InOrder (expected frames : List PollState) : Prop :=
  frames <+: expected ∨ expected <+: frames

/-- One more frame, if it is the next one expected. -/
theorem InOrder.cons {expected rest frames : List PollState} (state : PollState)
    (order : InOrder expected frames) (certain : rest <+: expected) :
    InOrder (state :: rest) (state :: frames) := by
  unfold InOrder
  simp only [List.cons_prefix_cons, true_and]
  rcases order with behind | beyond
  · exact List.prefix_or_prefix_of_prefix behind certain
  · exact .inr (certain.trans beyond)

namespace Session

/-- As long as the cycle is not started over, frames are read in the order that the state makes
certain. -/
theorem framesRead_inOrder {operations : List Operation} {session : Session τ σ size}
    (stays : ∀ step ∈ (run operations session).1, step.restarts = false) :
    InOrder session.driver.state.ahead (framesRead operations session) := by
  -- By induction on the operations: a step that reads a frame takes it from the front of what is
  -- certain, and a step that reads none keeps the state.
  induction operations generalizing session with
  | nil => exact .inl List.nil_prefix
  | cons operation rest ih =>
    simp only [run, List.mem_cons, forall_eq_or_imp] at stays
    obtain ⟨here, later⟩ := stays
    have order := ih later
    have transition := session.transition_perform operation
    simp only [framesRead]
    rcases transition.effect with ⟨restarts, -, -⟩ | ⟨-, fresh, reply, advance⟩ | ⟨-, stale, kept⟩
    · rw [here] at restarts
      cases restarts
    · rw [if_pos fresh]
      rcases advance.ahead_eq with nothing | ⟨certain, ahead, continues⟩
      · rw [nothing]
        exact .inr List.nil_prefix
      · rw [ahead]
        exact order.cons _ continues
    · rw [if_neg (Bool.eq_false_iff.1 stale), ← kept]
      exact order

/-- **The poll cycle.** A new driver reads the system parameters first. Whatever happened to it,
each further operation is one of the transitions, and no poll step enters the state of the system
parameters from another one. When the driver is new, was just identified or just had a command
acknowledged, then the first frames that are read before the next such event are those of the
system parameters, the warnings and the on/off status, in this order. -/
theorem poll_cycle_of_new (link : τ) (config : Config) (sink : σ) :
    let start : Session τ σ size := ⟨.new link config, sink⟩
    start.driver.state = .parameters ∧
      ∀ before : List Operation,
        let reached := (run before start).2
        (∀ operation, reached.Transition operation (reached.perform operation).1
          (reached.perform operation).2.driver.state) ∧
        ((reached.perform .poll).2.driver.state = .parameters →
          reached.driver.state = .parameters) ∧
        ((before = [] ∨
            ∃ step, (run before start).1.getLast? = some step ∧ step.restarts = true) →
          ∀ after, (∀ step ∈ (run after reached).1, step.restarts = false) →
            InOrder [.parameters, .warning, .onOff] (framesRead after reached)) := by
  intro start
  refine ⟨rfl, fun before => ?_⟩
  intro reached
  refine ⟨reached.transition_perform, (reached.transition_perform .poll).parameters_of_poll, ?_⟩
  intro restarted after stays
  have begins : reached.driver.state = .parameters := by
    rcases restarted with rfl | ⟨step, last, restarts⟩
    · rfl
    · exact parameters_of_run last restarts
  have order := framesRead_inOrder stays
  rw [begins] at order
  exact order

/-- A new driver that misses the answer to its second poll step and to a command still reads the
three frames in order. -/
theorem poll_cycle_with_losses :
    let answer (length : Nat) : ExchangeScript :=
      { receive := .ok (SimulatedUps.reply 0x00 (SimulatedUps.infoWith length [])) }
    let link : ScriptedLink := { exchanges := [answer 106, {}, answer 54, {}, answer 20] }
    let config : Config := { attempts := 1 }
    let start : Session ScriptedLink Recorder standardBufferSize := ⟨.new link config, .empty⟩
    let operations : List Operation := [.poll, .poll, .poll, .send .loadOn, .poll]
    (∀ step ∈ (run operations start).1, step.restarts = false) ∧
      framesRead operations start = [.parameters, .warning, .onOff] ∧
      InOrder [.parameters, .warning, .onOff] (framesRead operations start) := by
  intro answer link config start operations
  have stays : ∀ step ∈ (run operations start).1, step.restarts = false := by decide +kernel
  obtain ⟨-, cycle⟩ := @poll_cycle_of_new _ _ _ standardBufferSize _ _ link config Recorder.empty
  obtain ⟨-, -, inOrder⟩ := cycle []
  exact ⟨stays, by decide +kernel, inOrder (.inl rfl) operations stays⟩

end Session

end UpsTelemetry
