import UpsTelemetry.Bench.ScriptedLink
import UpsTelemetry.Bench.SimulatedUps
import UpsTelemetry.Proofs.Driver.Commands
import UpsTelemetry.Proofs.Driver.PollStep
import UpsTelemetry.Proofs.Frame.Integrity
import UpsTelemetry.Sink.Recorder

/-!
# What a return code decides

A reply is accepted only if its return code is read as zero. The reader is lenient, so this is more
than the text of zero: what noise makes of a rejection may be accepted
(`acceptance_by_code`).

* `Line.RejectedBy`: an exchange brings an intact reply that reports another number than zero.
* `rejection_by_operation`: no poll step and no command takes such an exchange for a success. But
  identification does not look at return codes, and it takes one for a success if the reply is long
  enough to hold a model name.
-/

namespace UpsTelemetry

variable {τ ε σ : Type} {size : Nat} [Link τ ε] [TelemetrySink σ]

/-! ## Codes that are accepted -/

/-- **A reply is accepted exactly if its code is read as zero**, enough bytes are said to have come,
and the code is among those that are there; it is then all that are there. Anything else is refused
for the first reason there is. Of two digits only the text of zero is read as zero, but a zero
before a character that is no digit is too, and so is anything behind one. A command that is handled
may have been acknowledged by such a code. -/
theorem acceptance_by_code :
    (∀ (read : Except (DriverError ε) Nat) (buffer : Bytes) (minimum : Nat),
      (∀ reply, accept read buffer minimum = .ok reply ↔
        ∃ got high low, read = .ok got ∧ minimum ≤ got ∧
          reply = ⟨buffer.take (min got buffer.length)⟩ ∧ reply.CodeText high low ∧
          Hex.ReadsAsZero high low) ∧
      ∀ error, accept read buffer minimum = .error error ↔ Refusal buffer minimum read error) ∧
    (∀ high low, Hex.isDigit high = true → Hex.isDigit low = true →
      (Hex.ReadsAsZero high low ↔ high = 0x30 ∧ low = 0x30)) ∧
    ∀ (driver : Driver τ size) (name : String), (driver.instant name).1 = .handled →
      ∃ command, ∃ count < max driver.config.attempts 1, ∃ reply high low,
        (driver.commandLine command count).Accepts driver.config .remoteControl command.payload 0
            reply ∧
          reply.CodeText high low ∧ Hex.ReadsAsZero high low := by
  refine ⟨fun read buffer minimum => ⟨fun reply => ?_, fun error => accept_eq_error_iff⟩,
    fun high low isHigh isLow => ?_, fun driver name handled => ?_⟩
  · rw [accept_eq_ok_iff]
    constructor
    · rintro ⟨got, rfl, rfl, enough, success⟩
      obtain ⟨high, low, text, reads⟩ := Reply.returnCode_eq_zero_iff.1 success
      refine ⟨got, high, low, rfl, enough, ?_, text, reads⟩
      rw [← List.take_eq_take_min]
    · rintro ⟨got, high, low, rfl, enough, all, text, reads⟩
      rw [← List.take_eq_take_min] at all
      exact ⟨got, rfl, all, enough, Reply.returnCode_eq_zero_iff.2 ⟨high, low, text, reads⟩⟩
  · rw [Hex.readsAsZero_iff, isHigh, isLow]
    simp
  · obtain ⟨command, count, allowed, -, reply, accepts⟩ :=
      driver.exists_acknowledged_of_handled handled
    have ⟨got, line', exchanged, came, accepted⟩ := accepts
    obtain ⟨high, low, text, reads⟩ := Reply.returnCode_eq_zero_iff.1 accepted.success
    exact ⟨command, count, allowed, reply, high, low, accepts, text, reads⟩

/-- With lenient settings, noise in the first character of a rejection makes an acknowledgement. -/
theorem noise_acknowledges :
    let reply : Reply := ⟨(SimulatedUps.reply 0x04 []).set 7 0x5A⟩
    let link : ScriptedLink := ⟨{}, [{ receive := .ok reply.raw }]⟩
    let driver : Driver ScriptedLink standardBufferSize := .new link { strict := false }
    reply.CodeText 0x5A 0x34 ∧ Hex.isDigit 0x5A = false ∧
      accept (.ok reply.raw.length : Except (DriverError FaultKind) Nat) reply.raw 13 = .ok reply ∧
      (driver.instant "load.off").1 = .handled := by
  intro reply link driver
  refine ⟨⟨rfl, rfl⟩, rfl, ?_, ?_⟩
  · rfl
  · decide +kernel

/-- The command that is handled here was acknowledged with a code that is read as zero. -/
theorem acceptance_by_code_of_noise :
    let reply : Reply := ⟨(SimulatedUps.reply 0x04 []).set 7 0x5A⟩
    let link : ScriptedLink := ⟨{}, [{ receive := .ok reply.raw }]⟩
    let driver : Driver ScriptedLink standardBufferSize := .new link { strict := false }
    (driver.instant "load.off").1 = .handled ∧
      ∃ reply high low, Reply.CodeText reply high low ∧ Hex.ReadsAsZero high low ∧
        ∃ command count, (driver.commandLine command count).Accepts driver.config .remoteControl
          command.payload 0 reply := by
  intro reply link driver
  have handled : (driver.instant "load.off").1 = .handled := by decide +kernel
  obtain ⟨-, -, coded⟩ := @acceptance_by_code ScriptedLink FaultKind standardBufferSize _
  obtain ⟨command, count, -, reply, high, low, accepts, text, reads⟩ :=
    coded driver "load.off" handled
  exact ⟨handled, reply, high, low, text, reads, command, count, accepts⟩

/-! ## Exchanges that are rejected -/

namespace Line

/-- The exchange of a command brings an intact reply, all of which fits the buffer and is said to
have come, and it reports a number other than zero. -/
structure RejectedBy (config : Config) (command : Command) (payload : Bytes) (code : UInt8)
    (reply : Reply) (line line' : Line τ size) : Prop where
  /-- The exchange brings as many bytes as the reply has. -/
  exchanged : line.exchange config command payload = (.ok reply.raw.length, line')
  /-- They are the reply. -/
  received : line'.reply reply.raw.length = reply
  /-- The reply is intact. -/
  intact : reply.verify = .ok ()
  /-- Its return code is the text of a number. -/
  reports : reply.Reports code
  /-- The number is not zero. -/
  nonzero : code ≠ 0x00

namespace RejectedBy

variable {config : Config} {command : Command} {payload : Bytes} {code : UInt8} {reply : Reply}
  {line line' : Line τ size}

/-- A rejection is not accepted, whoever asked. -/
theorem not_accepts (rejected : line.RejectedBy config command payload code reply line')
    (minimumInfo : Nat) (other : Reply) :
    ¬ line.Accepts config command payload minimumInfo other := by
  rintro ⟨got, line'', exchanged, rfl, accepted⟩
  rw [rejected.exchanged, Prod.mk.injEq, Except.ok.injEq] at exchanged
  obtain ⟨rfl, rfl⟩ := exchanged
  have success := accepted.success
  rw [rejected.received, rejected.reports.returnCode_eq, Except.ok.injEq] at success
  exact rejected.nonzero success

/-- A request that asks for no INFO fails with the code. -/
theorem request_eq (rejected : line.RejectedBy config command payload code reply line') :
    line.request config command payload 0 =
      (.error (.rejected (.ofByte code)), line') := by
  have refusal : Refusal line'.buffer.contents (Frame.headerLength + 0)
      (.ok reply.raw.length : Except (DriverError ε) Nat) (.rejected (.ofByte code)) := by
    obtain ⟨high, low, first, second, text, isHigh, isLow, value⟩ := rejected.reports
    rw [← rejected.received] at text
    refine .rejected (Frame.headerLength_le_of_verify rejected.intact) text ?_ rejected.nonzero
    rw [value]
    simp [Hex.leadingDigits, isHigh, isLow, Hex.positional]
  unfold request
  rw [rejected.exchanged]
  dsimp only
  rw [refusal.accept_eq]
  rfl

end RejectedBy

end Line

namespace Driver

variable {config : Config} {code : UInt8} {reply : Reply} {line line' : Line τ size}

/-- An attempt at identification counts the bytes of a rejection. -/
theorem identifyOnce_of_rejectedBy
    (rejected : line.RejectedBy config .readVendorInfo [] code reply line') :
    identifyOnce config line = (.ok reply.raw.length, line') := by
  unfold identifyOnce
  rw [rejected.exchanged]
  dsimp only
  by_cases long : VendorInfo.minimumLength ≤ reply.raw.length
  · have passes : checked config.strict (line'.reply reply.raw.length) =
        (.ok reply : Except (DriverError ε) Reply) := by
      rw [checked_eq_ok_iff, rejected.received]
      exact ⟨rfl, fun _ => rejected.intact⟩
    rw [if_pos long, passes]
    rfl
  · rw [if_neg long]

/-- So it identifies if there are enough of them. -/
theorem comesOutGood_of_rejectedBy
    (rejected : line.RejectedBy config .readVendorInfo [] code reply line') :
    ComesOutGood (identifyOnce config) identifies line ↔
      VendorInfo.minimumLength ≤ reply.raw.length := by
  have counted := congrArg Prod.fst (identifyOnce_of_rejectedBy rejected)
  constructor
  · rintro ⟨got, came, enough⟩
    obtain rfl := Except.ok.inj (counted.symm.trans came)
    exact of_decide_eq_true enough
  · intro long
    exact ⟨_, counted, decide_eq_true long⟩

end Driver

/-! ## Operations -/

namespace Session

/-- **A rejection is no success for a poll step or a command, but may be for identification.** A
poll step that is answered by a rejection marks the data as old and keeps its state. An attempt at a
command that is so answered is not acknowledged, and if it is the one that decides, the command
fails with the code. An attempt at identification does identify, if the reply is long enough to hold
a model name: then the model is published from it and the state is set. A shorter one does not. -/
theorem rejection_by_operation (session : Session τ σ size) :
    let driver := session.driver
    let config := driver.config
    let line := Line.fresh driver.link size
    (∀ code reply line',
      line.RejectedBy config driver.state.command [] code reply line' →
        ∃ link, session.perform .poll =
          (⟨.polled driver.state, [.markStale]⟩,
            ⟨{ driver with link }, TelemetrySink.accept .markStale session.sink⟩)) ∧
    (∀ command count code reply line',
      (driver.commandLine command count).RejectedBy config .remoteControl command.payload code
          reply line' →
        ¬ driver.Acknowledged command count ∧
        (Decides config.attempts (Driver.commandOnce config command) Driver.acknowledges line
            count →
          session.perform (.send command) =
            (⟨.sent (.error (.rejected (.ofByte code))), []⟩,
              session.leftBy line' driver.state))) ∧
    (∀ count code reply line',
      let attempt := Driver.identifyOnce config
      (stateBefore attempt count line).RejectedBy config .readVendorInfo [] code reply line' →
        (ComesOutGood attempt Driver.identifies (stateBefore attempt count line) ↔
          VendorInfo.minimumLength ≤ reply.raw.length) ∧
        (Decides config.attempts attempt Driver.identifies line count →
          (reply.raw.length < VendorInfo.minimumLength →
            session.perform .identify =
              (⟨.identified (.error (.insufficientIdentification reply.raw.length)), []⟩,
                session.leftBy line' driver.state)) ∧
          (VendorInfo.minimumLength ≤ reply.raw.length →
            ∃ model, VendorInfo.model reply = .ok model ∧
              session.perform .identify =
                (⟨.identified (.ok ()), Driver.identityEvents model config.address⟩,
                  ⟨⟨line'.link, config, .initial⟩, TelemetrySink.emit
                    (Driver.identityEvents model config.address) session.sink⟩)))) := by
  intro driver config line
  refine ⟨fun code reply line' rejected => ?_, fun command count code reply line' rejected => ?_,
    fun count code reply line' => ?_⟩
  · have unread : ∀ report, ¬ driver.Reads (TelemetrySink.hasStatus session.sink) report := by
      rintro report ⟨other, accepts, -⟩
      exact rejected.not_accepts _ other accepts
    obtain ⟨link, polled⟩ := Driver.poll_of_not_reads unread
    exact ⟨link, perform_poll polled⟩
  · refine ⟨fun ⟨other, accepts⟩ => rejected.not_accepts 0 other accepts, fun decides => ?_⟩
    have sent := Driver.sendCommand_of_decides decides rejected.request_eq
    exact perform_send sent
  · intro attempt rejected
    refine ⟨Driver.comesOutGood_of_rejectedBy rejected, fun decides => ?_⟩
    have comes := Driver.identifyOnce_of_rejectedBy rejected
    refine ⟨fun short => perform_identify_of_error (Driver.identify_of_short decides comes short),
      fun long => ?_⟩
    obtain ⟨model, read⟩ := VendorInfo.exists_model long
    have read' := read
    rw [← rejected.received] at read'
    exact ⟨model, read,
      perform_identify_of_ok (Driver.identify_of_long decides comes long read')⟩

/-- A link that answers with an intact rejection rejects whatever it is asked. -/
theorem rejectedBy_scripted {reply : Reply} {code : UInt8} (room : reply.raw.length ≤ size)
    (intact : reply.verify = .ok ()) (reports : reply.Reports code) (nonzero : code ≠ 0x00)
    (config : Config) (command : Command) {payload : Bytes}
    (fits : payload.length + Frame.overhead ≤ Frame.requestCapacity) :
    ∃ line', (Line.fresh (⟨{}, [{ receive := .ok reply.raw }]⟩ : ScriptedLink) size).RejectedBy
      config command payload code reply line' := by
  refine ⟨⟨⟨{ receive := .ok reply.raw }, []⟩, (ReceiveBuffer.zeros size).overwrite 0 reply.raw⟩,
    ?_, congrArg Reply.mk (ReceiveBuffer.received_overwrite_zero _ room), intact, reports, nonzero⟩
  have came : reply.raw.length ≠ 0 :=
    Nat.ne_of_gt (Nat.lt_of_lt_of_le (by decide) (Frame.headerLength_le_of_verify intact))
  have written : (Frame.sealed (Frame.requestHeader command .current config.address)
      payload).length ≠ 0 := by
    rw [Frame.length_sealed]
    omega
  unfold Line.exchange Line.sendAndAwait Line.await
  simp only [Line.fresh, Link.flushInput, ScriptedLink.next, Frame.request?_of_fits fits,
    Link.send, Option.getD_none, if_neg written, Link.receive, if_neg came]

/-- The rejection of an identification is taken for the answer, if it has the characters of a model
name. -/
theorem rejection_identifies :
    let reply : Reply := ⟨SimulatedUps.reply 0x05 (List.replicate 22 0x34)⟩
    let link : ScriptedLink := ⟨{}, [{ receive := .ok reply.raw }]⟩
    let session : Session ScriptedLink Recorder standardBufferSize :=
      ⟨.new link .standard, .empty⟩
    session.driver.config.strict = true ∧
      (∃ line', (Line.fresh link standardBufferSize).RejectedBy session.driver.config
        .readVendorInfo [] 0x05 reply line') ∧
      (session.perform .identify).1 =
        ⟨.identified (.ok ()), Driver.identityEvents "DDDDDDDDDD" .standard⟩ := by
  intro reply link session
  have intact : reply.verify = .ok () := by decide +kernel
  have reports : reply.Reports 0x05 := ⟨0x30, 0x35, 0, 5, ⟨rfl, rfl⟩, rfl, rfl, rfl⟩
  refine ⟨rfl, ?_, ?_⟩
  · exact rejectedBy_scripted (by decide) intact reports (by decide) _ _ (by decide)
  · dsimp only [session, link, reply]
    rfl

/-- One and the same short rejection has no effect on any operation, and a long one identifies. -/
theorem rejection_by_operation_of_scripted :
    let short : Reply := ⟨SimulatedUps.reply 0x05 []⟩
    let long : Reply := ⟨SimulatedUps.reply 0x05 (List.replicate 22 0x34)⟩
    let session : Reply → Session ScriptedLink Recorder standardBufferSize := fun reply =>
      ⟨.new ⟨{}, [{ receive := .ok reply.raw }]⟩ { attempts := 1 }, .empty⟩
    ((session short).perform .poll).1 = ⟨.polled .parameters, [.markStale]⟩ ∧
      ((session short).perform (.send .loadOn)).1 =
        ⟨.sent (.error (.rejected .badCommandFormat)), []⟩ ∧
      ((session short).perform .identify).1 =
        ⟨.identified (.error (.insufficientIdentification 18)), []⟩ ∧
      ∃ model, ((session long).perform .identify).1 =
        ⟨.identified (.ok ()), Driver.identityEvents model .standard⟩ := by
  intro short long session
  have reports : ∀ info, Reply.Reports ⟨SimulatedUps.reply 0x05 info⟩ 0x05 := by
    intro info
    exact ⟨0x30, 0x35, 0, 5, ⟨rfl, rfl⟩, rfl, rfl, rfl⟩
  have rejected : ∀ reply, reply = short ∨ reply = long → ∀ command (payload : Bytes),
      payload.length + Frame.overhead ≤ Frame.requestCapacity →
        ∃ line', (Line.fresh (session reply).driver.link standardBufferSize).RejectedBy
          (session reply).driver.config command payload 0x05 reply line' := by
    rintro reply (rfl | rfl) command payload fits
    · have intact : short.verify = .ok () := by decide +kernel
      exact rejectedBy_scripted (by decide) intact (reports []) (by decide) _ command fits
    · have intact : long.verify = .ok () := by decide +kernel
      exact rejectedBy_scripted (by decide) intact (reports _) (by decide) _ command fits
  have none : ∀ {P : Nat → Prop}, ∀ earlier < 0, P earlier := by
    intro P earlier before
    exact absurd before (Nat.not_lt_zero _)
  obtain ⟨polls, sends, identifies⟩ := rejection_by_operation (session short)
  obtain ⟨-, -, identifiesLong⟩ := rejection_by_operation (session long)
  refine ⟨?_, ?_, ?_, ?_⟩
  · obtain ⟨line', answer⟩ := rejected short (.inl rfl) .readParameters [] (by decide)
    obtain ⟨link, performed⟩ := polls _ _ _ answer
    exact congrArg Prod.fst performed
  · obtain ⟨line', answer⟩ :=
      rejected short (.inl rfl) .remoteControl InstantCommand.loadOn.payload (by decide)
    have performed := (sends .loadOn 0 _ _ _ answer).2 ⟨by decide, none, .inr rfl⟩
    exact congrArg Prod.fst performed
  · obtain ⟨line', answer⟩ := rejected short (.inl rfl) .readVendorInfo [] (by decide)
    have performed := ((identifies 0 _ _ _ answer).2 ⟨by decide, none, .inr rfl⟩).1 (by decide)
    exact congrArg Prod.fst performed
  · obtain ⟨line', answer⟩ := rejected long (.inr rfl) .readVendorInfo [] (by decide)
    obtain ⟨model, -, performed⟩ :=
      ((identifiesLong 0 _ _ _ answer).2 ⟨by decide, none, .inr rfl⟩).2 (by decide)
    exact ⟨model, congrArg Prod.fst performed⟩

end Session

end UpsTelemetry
