import UpsTelemetry.Bench.ScriptedLink
import UpsTelemetry.Bench.SimulatedUps
import UpsTelemetry.Proofs.Driver.Conversation
import UpsTelemetry.Proofs.Driver.PollCycle
import UpsTelemetry.Sink.Recorder

/-!
# What strict settings change

Strict settings only take acceptances away. A poll step that succeeds with them does the same
without, and one that succeeds without them fails with them for one reason, that the reply is not
intact. As long as every reply is intact, nobody can tell the settings apart, however often and for
whatever the UPS is asked.

* `LinkCall.Intact`: what was received, if anything was, is intact.
* `Driver.Indifferent`: an operation whose record is intact does the same with the other settings.
  Attempts need not be looked at one by one, since what is intact at the end was so all the time
  (`retry_congr`). `Session.run_withStrict` is the same of runs.
* `Driver.pollOnce_cases`, `Driver.poll_withStrict_false`: strict settings are one more test, made
  of the reply.
* `Session.strictness_only_refuses`: the main statement.
-/

namespace UpsTelemetry

variable {τ ε σ : Type} {size : Nat}

/-- The driver with other settings. -/
def Driver.withStrict (strict : Bool) (driver : Driver τ size) : Driver τ size :=
  { driver with config := driver.config.withStrict strict }

/-- The session with other settings. -/
def Session.withStrict (strict : Bool) (session : Session τ σ size) : Session τ σ size :=
  { session with driver := session.driver.withStrict strict }

/-! ## Intact records -/

/-- If a call received anything, which its count says, then the bytes begin with an intact frame. -/
def LinkCall.Intact : LinkCall ε → Prop
  | receive _ _ (.ok got) bytes => got ≠ 0 → (Reply.mk bytes).verify = .ok ()
  | _ => True

instance : (call : LinkCall ε) → Decidable call.Intact
  | .receive _ _ (.ok got) bytes =>
    inferInstanceAs (Decidable (got ≠ 0 → (Reply.mk bytes).verify = .ok ()))
  | .receive _ _ (.error _) _ => .isTrue trivial
  | .flushInput _ => .isTrue trivial
  | .send _ _ => .isTrue trivial

/-- All that was received so far is intact. -/
def TracedLink.Intact (traced : TracedLink τ ε) : Prop :=
  ∀ call ∈ traced.calls, call.Intact

/-- What is intact in the end was intact before the last calls. -/
theorem TracedLink.Intact.of_append {before after : TracedLink τ ε} {calls : List (LinkCall ε)}
    (intact : after.Intact) (recorded : after.calls = before.calls ++ calls) : before.Intact := by
  intro call mem
  apply intact call
  rw [recorded]
  exact List.mem_append_left calls mem

/-- An intact reply passes, be the settings strict or not. -/
theorem checked_of_verify {strict : Bool} {reply : Reply} (intact : reply.verify = .ok ()) :
    checked strict reply = (.ok reply : Except (DriverError ε) Reply) :=
  checked_eq_ok_iff.2 ⟨rfl, fun _ => intact⟩

variable [Link τ ε]

namespace Line

variable {line : Line (TracedLink τ ε) size} {config : Config} {command : Command}
  {payload : Bytes}

/-- The reply of an exchange that leaves an intact record is intact. -/
theorem verify_of_intact {line' : Line (TracedLink τ ε) size} {got : Nat}
    (exchanged : line.exchange config command payload = (.ok got, line'))
    (intact : line'.link.Intact) : (line'.reply got).verify = .ok () := by
  obtain ⟨nonzero, last⟩ := last_call_of_answered exchanged
  exact intact _ (List.mem_of_getLast? last) nonzero

/-- Strictness makes no difference to a request that received nothing but intact frames. -/
theorem request_withStrict (other : Bool) {minimumInfo : Nat}
    (intact : (line.request config command payload minimumInfo).2.link.Intact) :
    line.request (config.withStrict other) command payload minimumInfo =
      line.request config command payload minimumInfo := by
  cases exchanged : line.exchange config command payload with
  | mk read line' =>
    have exchanged' : line.exchange (config.withStrict other) command payload = (read, line') :=
      exchanged
    unfold request at intact ⊢
    rw [exchanged] at intact ⊢
    rw [exchanged']
    dsimp only
    cases accepted : accept read line'.buffer.contents (Frame.headerLength + minimumInfo) with
    | error error => rfl
    | ok reply =>
      obtain ⟨got, rfl, rfl, -, -⟩ := accept_eq_ok_iff.1 accepted
      have verified : (Reply.mk (line'.buffer.contents.take got)).verify = .ok () :=
        verify_of_intact exchanged intact
      simp only [Except.bind, checked_of_verify verified]

end Line

namespace Driver

/-- Nor does it to an attempt at identification. -/
theorem identifyOnce_withStrict (other : Bool) {config : Config}
    {line : Line (TracedLink τ ε) size} (intact : (identifyOnce config line).2.link.Intact) :
    identifyOnce (config.withStrict other) line = identifyOnce config line := by
  rw [identifyOnce_line] at intact
  cases exchanged : line.exchange config .readVendorInfo [] with
  | mk read line' =>
    have exchanged' : line.exchange (config.withStrict other) .readVendorInfo [] = (read, line') :=
      exchanged
    rw [exchanged] at intact
    unfold identifyOnce
    rw [exchanged, exchanged']
    cases read with
    | error error => rfl
    | ok got => simp only [checked_of_verify (Line.verify_of_intact exchanged intact)]

/-! ## Operations -/

omit [Link τ ε] in
/-- An operation does the same with other settings, as long as its record is intact. -/
def Indifferent {ρ : Type}
    (operate : Driver (TracedLink τ ε) size → ρ × Driver (TracedLink τ ε) size) : Prop :=
  ∀ driver strict, (operate driver).2.link.Intact →
    operate (driver.withStrict strict) = Prod.map id (withStrict strict) (operate driver)

omit [Link τ ε] in
/-- It may then be reported in another way, with the state to poll next. -/
theorem Indifferent.report {ρ ρ' : Type}
    {operate : Driver (TracedLink τ ε) size → ρ × Driver (TracedLink τ ε) size}
    (indifferent : Indifferent operate) (told : ρ → PollState → ρ')
    {operate' : Driver (TracedLink τ ε) size → ρ' × Driver (TracedLink τ ε) size}
    (reported : ∀ driver, operate' driver =
      (told (operate driver).1 (operate driver).2.state, (operate driver).2)) :
    Indifferent operate' := by
  intro driver strict intact
  rw [reported] at intact
  rw [reported, reported, indifferent driver strict intact]
  rfl

/-- Identification is indifferent to strictness while all that comes in is intact. -/
theorem indifferent_identify :
    Indifferent (identify : Driver (TracedLink τ ε) size → _ × Driver (TracedLink τ ε) size) := by
  intro driver strict intact
  have back (line : Line (TracedLink τ ε) size)
      (intact : (identifyOnce driver.config line).2.link.Intact) : line.link.Intact := by
    obtain ⟨outcome, calls, -, recorded⟩ := identifyOnce_calls driver.config line
    exact intact.of_append recorded
  have tries : (driver.withStrict strict).identifyTries = driver.identifyTries := by
    rw [identify_link] at intact
    exact retry_congr (·.link.Intact) back
      (fun line intact => identifyOnce_withStrict strict intact) intact
  have told : identityOf (driver.withStrict strict).config driver.identifyTries.2 =
    (identityOf driver.config driver.identifyTries.2 : Nat → Except (DriverError ε) _) := rfl
  rw [identify_eq, identify_eq, tries, told]
  cases driver.identifyTries.1.bind (identityOf driver.config driver.identifyTries.2) with
  | error error => rfl
  | ok events => rfl

/-- So is sending a command. -/
theorem indifferent_sendCommand (command : InstantCommand) :
    Indifferent fun driver : Driver (TracedLink τ ε) size => driver.sendCommand command := by
  intro driver strict intact
  dsimp only at intact ⊢
  have back (line : Line (TracedLink τ ε) size)
      (intact : (commandOnce driver.config command line).2.link.Intact) : line.link.Intact := by
    obtain ⟨outcome, calls, -, recorded⟩ := commandOnce_calls driver.config command line
    exact intact.of_append recorded
  have tries : (driver.withStrict strict).commandTries command = driver.commandTries command := by
    rw [sendCommand_link] at intact
    exact retry_congr (·.link.Intact) back
      (fun line intact => Line.request_withStrict strict intact) intact
  rw [sendCommand_eq, sendCommand_eq, tries]
  cases (driver.commandTries command).1 with
  | error error => rfl
  | ok reply => rfl

/-- So is a poll step. -/
theorem indifferent_poll (hasStatus : String → Bool) :
    Indifferent fun driver : Driver (TracedLink τ ε) size => driver.poll hasStatus := by
  intro driver strict intact
  dsimp only at intact ⊢
  have read : (driver.withStrict strict).read hasStatus = driver.read hasStatus := by
    rw [poll_link] at intact
    have requested : (driver.withStrict strict).pollOnce = driver.pollOnce :=
      Line.request_withStrict strict intact
    rw [read_eq, read_eq, requested]
    rfl
  unfold poll
  rw [read]
  cases driver.read hasStatus with
  | mk outcome link =>
    cases outcome with
    | error error => rfl
    | ok report => rfl

/-- So is carrying out the command of a name. -/
theorem indifferent_execute (name : String) :
    Indifferent fun driver : Driver (TracedLink τ ε) size => driver.execute name := by
  cases known : InstantCommand.ofName? name with
  | none =>
    intro driver strict intact
    dsimp only
    rw [execute_of_unknown known, execute_of_unknown known]
    rfl
  | some command =>
    exact (indifferent_sendCommand command).report (fun outcome _ => outcome.map fun _ => command)
      fun driver => execute_of_known known rfl

/-- So is saying what became of it. -/
theorem indifferent_instant (name : String) :
    Indifferent fun driver : Driver (TracedLink τ ε) size => driver.instant name := by
  intro driver strict intact
  dsimp only at intact ⊢
  rw [instant_driver] at intact
  have executed := indifferent_execute name driver strict intact
  dsimp only at executed
  unfold instant
  rw [executed]
  obtain ⟨outcome, driver'⟩ := driver.execute name
  cases outcome with
  | ok command => rfl
  | error error => cases error <;> rfl

/-- No operation tells the settings apart as long as its record is intact. -/
theorem indifferent_step (operation : Operation) (hasStatus : String → Bool) :
    Indifferent (Session.step operation hasStatus :
      Driver (TracedLink τ ε) size → _ × Driver (TracedLink τ ε) size) := by
  cases operation with
  | identify =>
    refine indifferent_identify.report (fun
      | .ok events, _ => ⟨.identified (.ok ()), events⟩
      | .error error, _ => ⟨.identified (.error error), []⟩) fun driver => ?_
    unfold Session.step
    dsimp only
    obtain ⟨outcome, driver'⟩ := driver.identify
    cases outcome with
    | ok events => rfl
    | error error => rfl
  | poll =>
    exact (indifferent_poll hasStatus).report (fun events next => ⟨.polled next, events⟩)
      fun _ => rfl
  | instant name =>
    exact (indifferent_instant name).report (fun outcome _ => ⟨.commanded outcome, []⟩)
      fun _ => rfl
  | execute name =>
    exact (indifferent_execute name).report (fun outcome _ => ⟨.executed outcome, []⟩)
      fun _ => rfl
  | send command =>
    exact (indifferent_sendCommand command).report (fun outcome _ => ⟨.sent outcome, []⟩)
      fun _ => rfl
  | shutDown => exact fun _ _ _ => rfl

end Driver

/-! ## Runs -/

namespace Session

variable [TelemetrySink σ] {session : Session (TracedLink τ ε) σ size} (other : Bool)

/-- **The step.** An operation that received nothing but intact frames is the same with the other
strictness. -/
theorem perform_withStrict {operation : Operation}
    (intact : (session.perform operation).2.driver.link.Intact) :
    (session.withStrict other).perform operation =
      Prod.map id (withStrict other) (session.perform operation) := by
  have stepped := Driver.indifferent_step operation (TelemetrySink.hasStatus session.sink)
    session.driver other intact
  unfold perform
  rw [withStrict, stepped]
  rfl

/-- A run with an intact record does the same with other settings. -/
theorem run_withStrict {operations : List Operation}
    (intact : (run operations session).2.driver.link.Intact) :
    run operations (session.withStrict other) =
      Prod.map id (withStrict other) (run operations session) := by
  induction operations generalizing session with
  | nil => rfl
  | cons operation rest ih =>
    rw [run_cons] at intact
    obtain ⟨calls, -, recorded⟩ := calls_run rest (session.perform operation).2
    have first := perform_withStrict other (intact.of_append recorded)
    rw [run_cons, run_cons, first, Prod.map_snd, ih intact]
    rfl

end Session

/-! ## Poll steps -/

/-- Strict settings are one more test, made of the reply that would be accepted without. -/
theorem Line.request_withStrict_true (line : Line τ size) (config : Config) (command : Command)
    (payload : Bytes) (minimumInfo : Nat) :
    let loose := line.request (config.withStrict false) command payload minimumInfo
    line.request (config.withStrict true) command payload minimumInfo =
      (loose.1.bind (checked true), loose.2) := by
  have loose := line.request_eq (config.withStrict false) command payload minimumInfo
  have strict := line.request_eq (config.withStrict true) command payload minimumInfo
  rw [exchange_withStrict] at loose strict
  rw [loose, strict]
  refine Prod.ext ?_ rfl
  cases accept (line.exchange config command payload).1
    (line.exchange config command payload).2.buffer.contents (Frame.headerLength + minimumInfo)
  · rfl
  · rfl

namespace Driver

variable {driver : Driver τ size} {hasStatus : String → Bool}

/-- The request of a poll step comes to the same with both settings, unless it brings a reply that
is damaged. -/
theorem pollOnce_cases (driver : Driver τ size) :
    ((driver.withStrict true).pollOnce = (driver.withStrict false).pollOnce ∧
        ∀ reply, (driver.withStrict false).pollOnce.1 = .ok reply → reply.verify = .ok ()) ∨
      ∃ reply error, (driver.withStrict false).pollOnce.1 = .ok reply ∧ reply.verify ≠ .ok () ∧
        (driver.withStrict true).pollOnce.1 = .error error := by
  have strict : (driver.withStrict true).pollOnce =
      ((driver.withStrict false).pollOnce.1.bind (checked true),
        (driver.withStrict false).pollOnce.2) :=
    (Line.fresh driver.link size).request_withStrict_true driver.config _ _ _
  rw [strict]
  cases accepted : (driver.withStrict false).pollOnce.1 with
  | error error => exact .inl ⟨Prod.ext accepted.symm rfl, nofun⟩
  | ok reply =>
    cases verdict : reply.verify with
    | ok _ =>
      have passes :
          (Except.ok reply).bind (checked true) = (.ok reply : Except (DriverError ε) _) :=
        checked_of_verify verdict
      rw [passes]
      refine .inl ⟨Prod.ext accepted.symm rfl, fun other same => ?_⟩
      rw [← Except.ok.inj same, verdict]
    | error fault =>
      refine .inr ⟨reply, .frame fault, rfl, by rw [verdict]; exact nofun, ?_⟩
      exact checked_eq_error_iff.2 ⟨fault, rfl, verdict, rfl⟩

/-- A poll step does the same with both settings, if the request comes to the same. -/
theorem poll_withStrict_false
    (same : (driver.withStrict true).pollOnce = (driver.withStrict false).pollOnce) :
    (driver.withStrict false).poll hasStatus =
      Prod.map id (withStrict false) ((driver.withStrict true).poll hasStatus) := by
  have read : (driver.withStrict true).read hasStatus =
      (driver.withStrict false).read hasStatus := by
    rw [read_eq, read_eq, same]
    rfl
  unfold poll
  rw [read]
  cases (driver.withStrict false).read hasStatus with
  | mk outcome link =>
    cases outcome with
    | error error => rfl
    | ok report => rfl

/-- A poll step whose request fails marks the data as old. -/
theorem poll_of_refused {error : DriverError ε} (refused : driver.pollOnce.1 = .error error) :
    (driver.poll hasStatus).1 = [.markStale] := by
  have read : (driver.read hasStatus).1 = .error error := by
    rw [read_eq, refused]
    rfl
  unfold poll
  rw [← Prod.eta (driver.read hasStatus), read]

/-- The last call of a poll step whose request is accepted received the reply. -/
theorem last_call_of_accepted {driver : Driver (TracedLink τ ε) size} {reply : Reply}
    (accepted : driver.pollOnce.1 = .ok reply) :
    ∃ got, (driver.poll hasStatus).2.link.calls.getLast? =
      some (.receive size driver.config.timeoutMillis (.ok got) reply.raw) := by
  obtain ⟨got, line', exchanged, rfl, -⟩ := Line.request_eq_ok_iff.1 accepted
  have left : driver.pollOnce.2 = line' := congrArg Prod.snd exchanged
  rw [poll_link, left]
  exact ⟨got, (Line.last_call_of_answered exchanged).2⟩

end Driver

namespace Session

variable [TelemetrySink σ]

/-- A poll step whose request fails does not succeed. -/
theorem refreshes_of_refused {session : Session τ σ size} {error : DriverError ε}
    (refused : session.driver.pollOnce.1 = .error error) :
    (session.perform .poll).1.refreshes = false := by
  have told : (session.perform .poll).1.events = [.markStale] := Driver.poll_of_refused refused
  rw [Step.refreshes, told]
  rfl

/-- The request of a poll step that succeeds is accepted. -/
theorem accepted_of_refreshes {session : Session τ σ size}
    (refreshes : (session.perform .poll).1.refreshes = true) :
    ∃ reply, session.driver.pollOnce.1 = .ok reply := by
  cases outcome : session.driver.pollOnce.1 with
  | ok reply => exact ⟨reply, rfl⟩
  | error error => cases (refreshes_of_refused outcome).symm.trans refreshes

/-- A step of the poll cycle is the same with both settings, if its request comes to the same. -/
theorem perform_poll_withStrict_false {session : Session τ σ size}
    (same : (session.driver.withStrict true).pollOnce =
      (session.driver.withStrict false).pollOnce) :
    (session.withStrict false).perform .poll =
      Prod.map id (withStrict false) ((session.withStrict true).perform .poll) := by
  have polled := @Driver.poll_withStrict_false _ _ _ _ session.driver
    (TelemetrySink.hasStatus session.sink) same
  cases came : (session.driver.withStrict true).poll (TelemetrySink.hasStatus session.sink) with
  | mk events driver =>
    rw [came] at polled
    have strict : (session.withStrict true).driver.poll
      (TelemetrySink.hasStatus (session.withStrict true).sink) = (events, driver) := came
    have loose : (session.withStrict false).driver.poll
      (TelemetrySink.hasStatus (session.withStrict false).sink) =
        (events, driver.withStrict false) := polled
    rw [perform_poll strict, perform_poll loose]
    rfl

/-- **Strict settings only refuse.** Take the same step of the poll cycle with strict and with loose
settings. If the strict one succeeds, the loose one does the same, to the last call of the link and
the last event. If the loose one fails, so does the strict one. If the loose one succeeds, the
strict one fails exactly if the bytes received do not begin with an intact frame. And whatever is
done with the driver, as long as everything received is intact, the settings make no difference to
what it comes to, what the host is told, and what is sent. -/
theorem strictness_only_refuses (session : Session τ σ size) :
    let start := session.recorded
    let strict := (start.withStrict true).perform .poll
    let loose := (start.withStrict false).perform .poll
    (∀ setting operations, run operations (session.withStrict setting) =
      Prod.map id untraced (run operations (start.withStrict setting))) ∧
    (strict.1.refreshes = true → loose = Prod.map id (withStrict false) strict) ∧
    (loose.1.refreshes = false → strict.1.refreshes = false) ∧
    (loose.1.refreshes = true → ∃ got bytes,
      loose.2.driver.link.calls.getLast? =
        some (.receive size session.driver.config.timeoutMillis (.ok got) bytes) ∧
      (strict.1.refreshes = false ↔ (Reply.mk bytes).verify ≠ .ok ())) ∧
    ∀ setting other operations,
      (∀ call ∈ (run operations (start.withStrict setting)).2.driver.link.calls, call.Intact) →
        run operations (start.withStrict other) =
          Prod.map id (withStrict other) (run operations (start.withStrict setting)) := by
  intro start strict loose
  have cases := start.driver.pollOnce_cases
  have same (refreshes : strict.1.refreshes = true) :
      loose = Prod.map id (withStrict false) strict := by
    rcases cases with ⟨same, -⟩ | ⟨reply, error, -, -, refused⟩
    · exact start.perform_poll_withStrict_false same
    · have fails : strict.1.refreshes = false := refreshes_of_refused refused
      cases fails.symm.trans refreshes
  refine ⟨fun setting operations => run_untraced operations (session.withStrict setting), same,
    fun fails => ?_, fun refreshes => ?_, fun setting other operations => run_withStrict other⟩
  · by_contra refreshes
    rw [Bool.not_eq_false] at refreshes
    rw [same refreshes] at fails
    cases fails.symm.trans refreshes
  · obtain ⟨reply, accepted⟩ := accepted_of_refreshes refreshes
    obtain ⟨got, last⟩ := Driver.last_call_of_accepted accepted
    refine ⟨got, reply.raw, last, ?_⟩
    rcases cases with ⟨asked, intact⟩ | ⟨other, error, accepted', damaged, refused⟩
    · have step : loose = Prod.map id (withStrict false) strict :=
        start.perform_poll_withStrict_false asked
      rw [step] at refreshes
      exact iff_of_false (fun fails => nomatch fails.symm.trans refreshes)
        (not_not.2 (intact reply accepted))
    · obtain rfl := Except.ok.inj (accepted.symm.trans accepted')
      exact iff_of_true (refreshes_of_refused refused) damaged

/-- A reply with one garbled digit is reported with loose settings and refused with strict ones.
Over an intact acknowledgement the settings are the same. -/
theorem strictness_only_refuses_of_garbled :
    let parameters := SimulatedUps.reply 0x00 (List.replicate 106 0x30)
    let link : ScriptedLink := ⟨{}, [{ receive := .ok (parameters.set 14 0x31) }]⟩
    let garbled : Session ScriptedLink Recorder standardBufferSize :=
      ⟨.new link .standard, .empty⟩
    let answering : ScriptedLink := ⟨{}, [{ receive := .ok (SimulatedUps.reply 0x00 []) }]⟩
    let intact : Session ScriptedLink Recorder standardBufferSize :=
      ⟨.new answering .standard, .empty⟩
    ((garbled.recorded.withStrict false).perform .poll).1.refreshes = true ∧
      ((garbled.recorded.withStrict true).perform .poll).1.refreshes = false ∧
      (∃ got bytes,
        ((garbled.recorded.withStrict false).perform .poll).2.driver.link.calls.getLast? =
          some (.receive standardBufferSize garbled.driver.config.timeoutMillis (.ok got) bytes) ∧
        (Reply.mk bytes).verify ≠ .ok ()) ∧
      run [.send .loadOn] (intact.recorded.withStrict false) =
        Prod.map id (withStrict false) (run [.send .loadOn] (intact.recorded.withStrict true)) := by
  intro parameters link garbled answering intact
  obtain ⟨-, -, -, accepted, -⟩ := strictness_only_refuses garbled
  obtain ⟨-, -, -, -, indifferent⟩ := strictness_only_refuses intact
  have refreshes : ((garbled.recorded.withStrict false).perform .poll).1.refreshes = true := by
    decide +kernel
  have refuses : ((garbled.recorded.withStrict true).perform .poll).1.refreshes = false := by
    decide +kernel
  obtain ⟨got, bytes, last, refused⟩ := accepted refreshes
  refine ⟨refreshes, refuses, ⟨got, bytes, last, refused.1 refuses⟩, ?_⟩
  exact indifferent true false [.send .loadOn] (by decide +kernel)

end Session

end UpsTelemetry
