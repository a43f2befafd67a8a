import UpsTelemetry.Bench.ScriptedLink
import UpsTelemetry.Bench.SimulatedUps
import UpsTelemetry.Proofs.Driver.Requests
import UpsTelemetry.Proofs.Driver.Traced
import UpsTelemetry.Proofs.Frame.Markers
import UpsTelemetry.Sink.Recorder

/-!
# Commands are tried until the first acknowledgement

A command is given by name. Each attempt is one exchange, for the same frame, and no more are made
than it takes for one to be acknowledged or for the allowed number to be used up.

* `Driver.Acknowledged`: one of the attempts at a command brings an accepted reply.
* `Driver.exists_acknowledged_of_handled`: no command is handled without.
* `Session.commands_until_acknowledged`: what comes of a name, with the calls that are made.
-/

namespace UpsTelemetry

variable {τ ε σ : Type} {size : Nat} [Link τ ε] [TelemetrySink σ]

/-! ## Requests know nothing of names -/

namespace Line

/-- No exchange fails for want of a name. -/
theorem exchange_ne_unknownCommand (line : Line τ size) (config : Config) (command : Command)
    (payload : Bytes) :
    (line.exchange config command payload).1 ≠ .error .unknownCommand := by
  intro failed
  unfold exchange sendAndAwait await at failed
  repeat' split at failed
  all_goals cases failed

/-- Neither does a request. -/
theorem request_ne_unknownCommand (line : Line τ size) (config : Config) (command : Command)
    (payload : Bytes) (minimumInfo : Nat) :
    (line.request config command payload minimumInfo).1 ≠ .error .unknownCommand := by
  have known := line.exchange_ne_unknownCommand config command payload
  unfold request
  generalize line.exchange config command payload = exchanged at known
  obtain ⟨read, line'⟩ := exchanged
  intro failed
  dsimp only at failed
  cases verdict : accept read line'.buffer.contents (Frame.headerLength + minimumInfo) with
  | error error =>
    rw [verdict] at failed
    obtain rfl := Except.error.inj failed
    cases accept_eq_error_iff.1 verdict with
    | failed => exact known rfl
  | ok reply =>
    rw [verdict] at failed
    obtain ⟨fault, -, -, same⟩ := checked_eq_error_iff.1 failed
    cases same

end Line

/-! ## Attempts at a command -/

namespace Driver

/-- The frame that carries a command. -/
def commandFrame (config : Config) (command : InstantCommand) : Bytes :=
  Frame.sealed (Frame.requestHeader .remoteControl .current config.address) command.payload

/-- An attempt at a command is one exchange, for the frame that carries it. -/
theorem commandOnce_calls (config : Config) (command : InstantCommand)
    (line : Line (TracedLink τ ε) size) :
    ∃ outcome calls,
      ExchangeCalls size config.timeoutMillis (commandFrame config command) outcome calls ∧
        (commandOnce config command line).2.link.calls = line.link.calls ++ calls := by
  obtain ⟨calls, made, recorded⟩ :=
    line.exchange_calls (Frame.request?_of_fits command.payload_fits)
  exact ⟨_, calls, made, recorded⟩

/-- The line on which an attempt at a command begins, if so many were made before it. -/
def commandLine (driver : Driver τ size) (command : InstantCommand) (count : Nat) : Line τ size :=
  stateBefore (commandOnce driver.config command) count (Line.fresh driver.link size)

/-- The attempt after `count` others brings an accepted reply. -/
def Acknowledged (driver : Driver τ size) (command : InstantCommand) (count : Nat) : Prop :=
  ∃ reply, (driver.commandLine command count).Accepts driver.config .remoteControl
    command.payload 0 reply

variable {driver : Driver τ size} {name : String} {command : InstantCommand} {count : Nat}

/-- An attempt is good exactly if it is acknowledged. -/
theorem comesOutGood_iff_acknowledged :
    ComesOutGood (commandOnce driver.config command) acknowledges
        (driver.commandLine command count) ↔
      driver.Acknowledged command count :=
  comesOutGood_commandOnce_iff

/-- An attempt that fails is not acknowledged. -/
theorem not_acknowledged_of_error {error : DriverError ε}
    (failed : (commandOnce driver.config command (driver.commandLine command count)).1 =
      .error error) : ¬ driver.Acknowledged command count := by
  rintro ⟨reply, accepts⟩
  have accepted := Line.request_eq_ok_iff.2 accepts
  cases failed.symm.trans accepted

/-- A command is sent by the first attempt that is acknowledged. -/
theorem sendCommand_of_acknowledged (allowed : count < max driver.config.attempts 1)
    (first : ∀ earlier < count, ¬ driver.Acknowledged command earlier)
    (acknowledged : driver.Acknowledged command count) :
    driver.sendCommand command = (.ok (), { driver with
      link := (driver.commandLine command (count + 1)).link
      state := .parameters }) := by
  have good := comesOutGood_iff_acknowledged.2 acknowledged
  have decides : Decides driver.config.attempts (commandOnce driver.config command) acknowledges
      (Line.fresh driver.link size) count := by
    refine ⟨allowed, fun earlier before good => ?_, .inl good⟩
    exact first earlier before (comesOutGood_iff_acknowledged.1 good)
  obtain ⟨reply, accepted, -⟩ := good
  cases comes : commandOnce driver.config command (driver.commandLine command count) with
  | mk outcome line' =>
    have left : driver.commandLine command (count + 1) = line' := by
      rw [commandLine, stateBefore_succ]
      exact congrArg Prod.snd comes
    obtain rfl : outcome = .ok reply := (congrArg Prod.fst comes).symm.trans accepted
    rw [left]
    exact sendCommand_of_decides decides comes

/-- If none of the attempts is acknowledged, all are made, and the last one says why the command
could not be sent. -/
theorem sendCommand_of_none_acknowledged
    (none : ∀ count < max driver.config.attempts 1, ¬ driver.Acknowledged command count) :
    ∃ error, (commandOnce driver.config command
        (driver.commandLine command (max driver.config.attempts 1 - 1))).1 = .error error ∧
      driver.sendCommand command = (.error error, { driver with
        link := (driver.commandLine command (max driver.config.attempts 1)).link }) := by
  generalize last : max driver.config.attempts 1 - 1 = count
  have total : max driver.config.attempts 1 = count + 1 := by omega
  have decides : Decides driver.config.attempts (commandOnce driver.config command) acknowledges
      (Line.fresh driver.link size) count := by
    refine ⟨by omega, fun earlier before good => ?_, .inr total.symm⟩
    exact none earlier (by omega) (comesOutGood_iff_acknowledged.1 good)
  cases comes : commandOnce driver.config command (driver.commandLine command count) with
  | mk outcome line' =>
    have sent := sendCommand_of_decides decides comes
    cases outcome with
    | ok reply =>
      have good : driver.Acknowledged command count :=
        comesOutGood_commandOnce_iff.1 ⟨reply, by rw [comes], rfl⟩
      exact absurd good (none count (by omega))
    | error error =>
      refine ⟨error, rfl, ?_⟩
      have left : driver.commandLine command (count + 1) = line' := by
        rw [commandLine, stateBefore_succ]
        exact congrArg Prod.snd comes
      rw [sent, total, left]

/-- A name that is no command's fails at once, and changes nothing. -/
theorem execute_of_unknown (unknown : InstantCommand.ofName? name = none) :
    driver.execute name = (.error .unknownCommand, driver) := by
  unfold execute
  rw [unknown]

/-- The command of a name comes to what sending it comes to. -/
theorem execute_of_known {outcome : Except (DriverError ε) Unit} {driver' : Driver τ size}
    (known : InstantCommand.ofName? name = some command)
    (sent : driver.sendCommand command = (outcome, driver')) :
    driver.execute name = (outcome.map fun _ => command, driver') := by
  unfold execute
  rw [known]
  dsimp only
  rw [sent]

/-- A name that is no command's is called unknown, and changes nothing. -/
theorem instant_of_unknown (unknown : InstantCommand.ofName? name = none) :
    driver.instant name = (.unknown, driver) := by
  unfold instant
  rw [execute_of_unknown unknown]

/-- A command that was sent is handled. -/
theorem instant_of_sent {driver' : Driver τ size}
    (known : InstantCommand.ofName? name = some command)
    (sent : driver.sendCommand command = (.ok (), driver')) :
    driver.instant name = (.handled, driver') := by
  unfold instant
  rw [execute_of_known known sent]
  rfl

/-- A command that is known but could not be sent has failed. -/
theorem instant_of_not_sent {error : DriverError ε} {driver' : Driver τ size}
    (known : InstantCommand.ofName? name = some command)
    (failed : driver.sendCommand command = (.error error, driver'))
    (other : error ≠ .unknownCommand) : driver.instant name = (.failed, driver') := by
  unfold instant
  rw [execute_of_known known failed]
  cases error with
  | unknownCommand => exact absurd rfl other
  | _ => rfl

/-- A command that was handled was acknowledged. -/
theorem exists_acknowledged_of_handled (handled : (driver.instant name).1 = .handled) :
    ∃ command, ∃ count < max driver.config.attempts 1,
      InstantCommand.ofName? name = some command ∧ driver.Acknowledged command count := by
  cases known : InstantCommand.ofName? name with
  | none =>
    rw [instant_of_unknown known] at handled
    cases handled
  | some command =>
    by_contra none
    obtain ⟨error, last, failed⟩ := driver.sendCommand_of_none_acknowledged
      fun count allowed acknowledged => none ⟨command, count, allowed, rfl, acknowledged⟩
    have other : error ≠ .unknownCommand := by
      rintro rfl
      exact Line.request_ne_unknownCommand _ _ _ _ _ last
    rw [instant_of_not_sent known failed other] at handled
    cases handled

/-- So many attempts are so many exchanges, and all are for the frame of the command. -/
theorem commandLine_calls (driver : Driver (TracedLink τ ε) size) (command : InstantCommand)
    (count : Nat) :
    ∃ calls, Exchanges size driver.config.timeoutMillis (commandFrame driver.config command)
        count calls ∧
      (driver.commandLine command count).link.calls = driver.link.calls ++ calls :=
  exchanges_stateBefore (commandOnce_calls driver.config command) count _

end Driver

/-! ## Commands by name -/

namespace Session

/-- The session after an operation of which the host was told nothing, with the link of a line. -/
def leftBy (session : Session τ σ size) (line : Line τ size) (state : PollState) :
    Session τ σ size :=
  ⟨⟨line.link, session.driver.config, state⟩, session.sink⟩

/-- **A command is tried until the first acknowledgement.** A name that is not in the table of
commands, in any case of its letters, changes nothing, and no call is made of the link. Any other
stands for a command. Each attempt at it is one exchange for the same frame, a request by `2A45`
with the payload that the table has, and the host is told nothing. If one of the attempts allowed is
acknowledged, the first such is the last to be made, the command is handled, and the parameters are
polled next. If none is, all are made, the last one says why the command failed, and the state is
kept. All of this is so with a record of the calls and without. -/
theorem commands_until_acknowledged (session : Session (TracedLink τ ε) σ size) (name : String) :
    let driver := session.driver
    let config := driver.config
    (∀ operation, session.untraced.perform operation =
      Prod.map id untraced (session.perform operation)) ∧
    ((∀ entry ∈ InstantCommand.table, name.toList.map Char.toLower ≠ entry.2.1.toList) →
      session.perform (.execute name) = (⟨.executed (.error .unknownCommand), []⟩, session) ∧
      session.perform (.instant name) = (⟨.commanded .unknown, []⟩, session)) ∧
    ∀ command word payload, (command, word, payload) ∈ InstantCommand.table →
      name.toList.map Char.toLower = word.toList →
      let frame := Frame.sealed (Frame.requestHeader .remoteControl .current config.address) payload
      let line := driver.commandLine command
      Frame.IsRequest config.address [0x32, 0x41, 0x34, 0x35] payload frame ∧
      (∀ count, ∃ calls, Exchanges size config.timeoutMillis frame count calls ∧
        (line count).link.calls = driver.link.calls ++ calls) ∧
      (∀ count < max config.attempts 1,
        (∀ earlier < count, ¬ driver.Acknowledged command earlier) →
        driver.Acknowledged command count →
          session.perform (.execute name) =
            (⟨.executed (.ok command), []⟩, session.leftBy (line (count + 1)) .parameters) ∧
          session.perform (.instant name) =
            (⟨.commanded .handled, []⟩, session.leftBy (line (count + 1)) .parameters)) ∧
      ((∀ count < max config.attempts 1, ¬ driver.Acknowledged command count) →
        ∃ error,
          (Driver.commandOnce config command (line (max config.attempts 1 - 1))).1 =
            .error error ∧
          session.perform (.execute name) = (⟨.executed (.error error), []⟩,
            session.leftBy (line (max config.attempts 1)) driver.state) ∧
          session.perform (.instant name) = (⟨.commanded .failed, []⟩,
            session.leftBy (line (max config.attempts 1)) driver.state)) := by
  intro driver config
  refine ⟨fun operation => perform_untraced operation session, fun unknown => ?_,
    fun command word payload entry same => ?_⟩
  · have none : InstantCommand.ofName? name = none := by
      refine InstantCommand.ofName?_eq_none_iff.2 fun command => ?_
      exact unknown (command, command.name, command.payload)
        (InstantCommand.mem_table_iff.2 ⟨rfl, rfl⟩)
    exact ⟨perform_execute (Driver.execute_of_unknown none),
      perform_instant (Driver.instant_of_unknown none)⟩
  obtain ⟨rfl, rfl⟩ := InstantCommand.mem_table_iff.1 entry
  have known := InstantCommand.ofName?_eq_some_iff.2 same
  have short : command.payload.length ≤ 0x0FFF :=
    show 4 ≤ 0x0FFF by decide
  intro frame line
  refine ⟨Frame.isRequest_sealed .remoteControl _ (Hex.isDigit_ofWord _) short,
    driver.commandLine_calls command, fun count allowed first acknowledged => ?_, fun none => ?_⟩
  · have sent := Driver.sendCommand_of_acknowledged allowed first acknowledged
    exact ⟨perform_execute (Driver.execute_of_known known sent),
      perform_instant (Driver.instant_of_sent known sent)⟩
  · obtain ⟨error, last, failed⟩ := Driver.sendCommand_of_none_acknowledged none
    have other : error ≠ .unknownCommand := by
      rintro rfl
      exact Line.request_ne_unknownCommand _ _ _ _ _ last
    exact ⟨error, last, perform_execute (Driver.execute_of_known known failed),
      perform_instant (Driver.instant_of_not_sent known failed other)⟩

/-- A command whose first acknowledgement is lost is handled by the second attempt. Without an
answer it fails after three, and a name that is no command's is not tried at all. -/
theorem load_on_after_lost_acknowledgement :
    let acknowledgement := SimulatedUps.reply 0x00 []
    let link : TracedLink ScriptedLink FaultKind :=
      { link := ⟨{}, [{}, { receive := .ok acknowledgement }]⟩ }
    let dead : TracedLink ScriptedLink FaultKind := { link := {} }
    let session : Session (TracedLink ScriptedLink FaultKind) Recorder standardBufferSize :=
      ⟨.new link .standard, .empty⟩
    let mute : Session (TracedLink ScriptedLink FaultKind) Recorder standardBufferSize :=
      ⟨.new dead .standard, .empty⟩
    session.perform (.execute "Load.ON") = (⟨.executed (.ok .loadOn), []⟩,
        session.leftBy (session.driver.commandLine .loadOn 2) .parameters) ∧
      (session.perform (.execute "beeper.mute")).2 = session ∧
      (mute.perform (.instant "load.off")).1 = ⟨.commanded .failed, []⟩ := by
  intro acknowledgement link dead session mute
  have silent : ∀ count < max Config.standard.attempts 1,
      ¬ mute.driver.Acknowledged .loadOff count := by
    intro count before
    apply Driver.not_acknowledged_of_error
    show _ = Except.error DriverError.timeout
    match count, before with
    | 0, _ => rfl
    | 1, _ => rfl
    | 2, _ => rfl
  refine ⟨?_, ?_, ?_⟩
  · obtain ⟨-, -, known⟩ := commands_until_acknowledged session "Load.ON"
    obtain ⟨-, -, handled, -⟩ := known .loadOn "load.on" [0x32, 0x30, 0x30, 0x31] (by decide)
      (by decide)
    refine (handled 1 (by decide) ?_ ?_).1
    · intro earlier before
      obtain rfl : earlier = 0 := by omega
      apply Driver.not_acknowledged_of_error
      show _ = Except.error DriverError.timeout
      rfl
    · refine ⟨⟨acknowledgement⟩, Line.request_eq_ok_iff.1 ?_⟩
      decide +kernel
  · obtain ⟨-, unknown, -⟩ := commands_until_acknowledged session "beeper.mute"
    exact congrArg Prod.snd (unknown (by decide)).1
  · obtain ⟨-, -, known⟩ := commands_until_acknowledged mute "load.off"
    obtain ⟨-, -, -, failed⟩ := known .loadOff "load.off" [0x32, 0x30, 0x30, 0x33] (by decide)
      (by decide)
    obtain ⟨error, -, -, performed⟩ := failed silent
    exact congrArg Prod.fst performed

end Session

end UpsTelemetry
