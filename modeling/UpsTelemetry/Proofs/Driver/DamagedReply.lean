import UpsTelemetry.Bench.SimulatedUps
import UpsTelemetry.Proofs.Bench.ScriptedUart
import UpsTelemetry.Proofs.Driver.Attempts
import UpsTelemetry.Proofs.Driver.PollStep
import UpsTelemetry.Proofs.Frame.Damage
import UpsTelemetry.Proofs.Link.Stream
import UpsTelemetry.Sink.Recorder

/-!
# A damaged reply has no effect

A serial link stops receiving at the first end marker, so damage may also change how much of a reply
the driver gets to see. It is always a first part of what came, though, and no first part of a
damaged frame is accepted with strict settings.

* `Line.AnsweredBy`: an exchange over a serial link that is answered by given bytes, in any pieces.
* `Line.DamagedAnswer`: one that is answered by a frame which was damaged on the way.
* `damaged_reply_has_no_effect`: no operation takes such an exchange for a success.
-/

namespace UpsTelemetry

variable {υ ε σ : Type} [Fault ε] [Uart υ ε] [FiniteInput υ] [TelemetrySink σ] {size : Nat}

namespace Line

/-! ## Answers over a serial link -/

/-- The exchange of a command gets as far as receiving, and then the UART has just these bytes to
give. -/
def AnsweredBy (config : Config) (command : Command) (payload : Bytes)
    (line : Line (SerialLink υ) size) (bytes : Bytes) : Prop :=
  ∃ (drained sent : υ) (request : Bytes) (written : Nat) (final : Except ε Unit),
    SerialLink.drain line.link.uart = (.ok (), drained) ∧
      Frame.request? Frame.requestCapacity command .current config.address payload =
        .ok request ∧
      SerialLink.transmit request drained = (.ok written, sent) ∧ Delivers final bytes sent

/-- The exchange of a command is answered by what damage made of a frame. -/
def DamagedAnswer (config : Config) (command : Command) (payload : Bytes)
    (line : Line (SerialLink υ) size) : Prop :=
  ∃ frame bytes, Frame.IsFrame frame ∧ Frame.Damaged frame bytes ∧
    line.AnsweredBy config command payload bytes

variable {config : Config} {command : Command} {payload : Bytes}
  {line line' : Line (SerialLink υ) size}

/-- The reply to an exchange is a first part of the bytes that answer it. -/
theorem AnsweredBy.reply_eq {bytes : Bytes}
    (answered : line.AnsweredBy config command payload bytes)
    {got : Nat} (exchanged : line.exchange config command payload = (.ok got, line')) :
    ∃ count, line'.reply got = ⟨bytes.take count⟩ := by
  obtain ⟨drained, sent, request, written, final, flushed, built, wrote, delivers⟩ := answered
  have takes := SerialLink.takes_of_delivers delivers line.buffer 0
  unfold exchange sendAndAwait await at exchanged
  simp only [Link.flushInput, flushed, built, Link.send, wrote, Link.receive] at exchanged
  by_cases unwritten : written = 0
  · rw [if_pos unwritten] at exchanged
    cases exchanged
  rw [if_neg unwritten] at exchanged
  generalize SerialLink.collect line.buffer 0 sent = result at takes exchanged
  obtain ⟨outcome, buffer, uart⟩ := result
  cases outcome with
  | error fault => cases exchanged
  | ok count =>
    dsimp only at exchanged
    by_cases silent : count = 0
    · rw [if_pos silent] at exchanged
      cases exchanged
    rw [if_neg silent] at exchanged
    obtain ⟨same, rfl⟩ := Prod.mk.inj exchanged
    obtain rfl := Except.ok.inj same
    have all := takes.of_ok rfl
    have received : buffer.received count = SerialLink.taken bytes size := by
      have front := takes.received_eq
      rw [← all] at front
      exact front
    refine ⟨(SerialLink.taken bytes size).length, ?_⟩
    rw [← List.prefix_iff_eq_take.1 (SerialLink.isPrefix_taken bytes size), ← received]
    rfl

/-- No reply to an exchange that is answered with damage is intact. -/
theorem DamagedAnswer.verify_ne_ok (answered : line.DamagedAnswer config command payload)
    {got : Nat} (exchanged : line.exchange config command payload = (.ok got, line')) :
    (line'.reply got).verify ≠ .ok () := by
  obtain ⟨frame, bytes, whole, damaged, answer⟩ := answered
  obtain ⟨count, reply⟩ := answer.reply_eq exchanged
  rw [reply]
  exact damaged.verify_take_ne_ok whole count

/-- With strict settings an exchange that is answered with damage brings no reply to accept. -/
theorem DamagedAnswer.not_accepts (answered : line.DamagedAnswer config command payload)
    (strict : config.strict = true) (minimumInfo : Nat) (reply : Reply) :
    ¬ line.Accepts config command payload minimumInfo reply := by
  rintro ⟨got, line', exchanged, rfl, accepted⟩
  exact answered.verify_ne_ok exchanged (accepted.intact strict)

/-- The plain script of one answer answers any exchange whose request can be built. -/
theorem answeredBy_answering {chunks : List Bytes} (nonempty : ∀ chunk ∈ chunks, chunk ≠ [])
    (config : Config) (command : Command) {payload : Bytes}
    (short : payload.length + Frame.overhead ≤ Frame.requestCapacity) :
    (fresh ⟨ScriptedUart.answering chunks⟩ size).AnsweredBy config command payload
      chunks.flatten := by
  exact ⟨_, _, _, _, _, ScriptedUart.drain_answering chunks, Frame.request?_of_fits short,
    ScriptedUart.transmit_answering chunks _, ScriptedUart.delivers_chunks nonempty rfl⟩

end Line

/-! ## Attempts -/

namespace Driver

variable {config : Config} {line : Line (SerialLink υ) size}

/-- An attempt at a command that is answered with damage is not acknowledged. -/
theorem commandOnce_of_damagedAnswer {command : InstantCommand} (strict : config.strict = true)
    (answered : line.DamagedAnswer config .remoteControl command.payload) :
    ¬ ComesOutGood (commandOnce config command) acknowledges line := by
  rw [comesOutGood_commandOnce_iff]
  rintro ⟨reply, accepts⟩
  exact answered.not_accepts strict _ reply accepts

/-- An attempt at identification that is answered with damage does not identify. -/
theorem identifyOnce_of_damagedAnswer (strict : config.strict = true)
    (answered : line.DamagedAnswer config .readVendorInfo []) :
    ¬ ComesOutGood (identifyOnce config) identifies line := by
  rintro ⟨got, identified, enough⟩
  have enough' : VendorInfo.minimumLength ≤ got := of_decide_eq_true enough
  unfold identifyOnce at identified
  cases exchanged : line.exchange config .readVendorInfo [] with
  | mk outcome line' =>
    rw [exchanged] at identified
    cases outcome with
    | error error => cases identified
    | ok got' =>
      dsimp only at identified
      by_cases long : VendorInfo.minimumLength ≤ got'
      · rw [if_pos long] at identified
        obtain ⟨reply, accepted, -⟩ := map_eq_ok_iff.1 identified
        obtain ⟨-, intact⟩ := checked_eq_ok_iff.1 accepted
        exact answered.verify_ne_ok exchanged (intact strict)
      · rw [if_neg long] at identified
        obtain rfl := Except.ok.inj identified
        exact long enough'

end Driver

/-! ## Operations -/

namespace Session

/-- **A damaged reply has no effect.** With strict settings over a serial link, a poll step that is
answered with damage marks the data as old and keeps its state. An attempt at a command or at
identification that is so answered is not good, and if it is the one that decides then the operation
fails, tells the host nothing and keeps the state. -/
theorem damaged_reply_has_no_effect (session : Session (SerialLink υ) σ size)
    (strict : session.driver.config.strict = true) :
    let config := session.driver.config
    let line := Line.fresh session.driver.link size
    (line.DamagedAnswer config session.driver.state.command [] →
      ∃ link, session.perform .poll =
        (⟨.polled session.driver.state, [.markStale]⟩,
          ⟨{ session.driver with link }, TelemetrySink.accept .markStale session.sink⟩)) ∧
    (∀ command count,
      let attempt := Driver.commandOnce config command
      (stateBefore attempt count line).DamagedAnswer config .remoteControl command.payload →
        ¬ ComesOutGood attempt Driver.acknowledges (stateBefore attempt count line) ∧
        (Decides config.attempts attempt Driver.acknowledges line count →
          ∃ error link, session.perform (.send command) =
            (⟨.sent (.error error), []⟩, ⟨{ session.driver with link }, session.sink⟩))) ∧
    (∀ count,
      let attempt := Driver.identifyOnce config
      (stateBefore attempt count line).DamagedAnswer config .readVendorInfo [] →
        ¬ ComesOutGood attempt Driver.identifies (stateBefore attempt count line) ∧
        (Decides config.attempts attempt Driver.identifies line count →
          ∃ error link, session.perform .identify =
            (⟨.identified (.error error), []⟩, ⟨{ session.driver with link }, session.sink⟩))) := by
  intro config line
  refine ⟨fun answered => ?_, fun command count => ?_, fun count => ?_⟩
  · have unread : ∀ report,
        ¬ session.driver.Reads (TelemetrySink.hasStatus session.sink) report := by
      rintro report ⟨reply, accepts, -⟩
      exact answered.not_accepts strict _ reply accepts
    obtain ⟨link, polled⟩ := Driver.poll_of_not_reads unread
    refine ⟨link, ?_⟩
    simp only [perform, step, polled, TelemetrySink.emit_cons, TelemetrySink.emit_nil]
  · intro attempt answered
    have fails := Driver.commandOnce_of_damagedAnswer strict answered
    refine ⟨fails, fun decides => ?_⟩
    obtain ⟨error, link, sent⟩ := Driver.sendCommand_of_not_good decides fails
    refine ⟨error, link, ?_⟩
    simp only [perform, step, sent, TelemetrySink.emit_nil]
  · intro attempt answered
    have fails := Driver.identifyOnce_of_damagedAnswer strict answered
    refine ⟨fails, fun decides => ?_⟩
    obtain ⟨error, link, identified⟩ := Driver.identify_of_not_good decides fails
    refine ⟨error, link, ?_⟩
    simp only [perform, step, identified, TelemetrySink.emit_nil]

/-- The acknowledgement of a command with an end marker in the place of the fourth character, in two
pieces, has no effect on any operation that it answers. -/
theorem damaged_acknowledgement_has_no_effect :
    let damaged := (SimulatedUps.reply 0x00 []).set 3 Frame.endMarker
    let session : Session (SerialLink ScriptedUart) Recorder standardBufferSize :=
      ⟨.new ⟨.answering [damaged.take 5, damaged.drop 5]⟩ { attempts := 1 }, .empty⟩
    session.driver.config.strict = true ∧
      (∃ link, session.perform .poll =
        (⟨.polled .parameters, [.markStale]⟩,
          ⟨{ session.driver with link }, TelemetrySink.accept .markStale session.sink⟩)) ∧
      (∃ error link, session.perform (.send .loadOn) =
        (⟨.sent (.error error), []⟩, ⟨{ session.driver with link }, session.sink⟩)) ∧
      ∃ error link, session.perform .identify =
        (⟨.identified (.error error), []⟩, ⟨{ session.driver with link }, session.sink⟩) := by
  intro damaged session
  have whole : Frame.IsFrame (SimulatedUps.reply 0x00 []) :=
    Frame.isFrame_iff.2 ⟨_, [], rfl, by decide, rfl⟩
  have damage : Frame.Damaged (SimulatedUps.reply 0x00 []) damaged :=
    .replaced (by decide) (by decide)
  have pieces : [damaged.take 5, damaged.drop 5].flatten = damaged := by
    rw [List.flatten_cons, List.flatten_singleton, List.take_append_drop]
  have answered : ∀ command payload, payload.length + Frame.overhead ≤ Frame.requestCapacity →
      (Line.fresh session.driver.link standardBufferSize).DamagedAnswer session.driver.config
        command payload := by
    intro command payload short
    refine ⟨_, damaged, whole, damage, ?_⟩
    rw [← pieces]
    exact Line.answeredBy_answering (by decide) _ _ short
  obtain ⟨polls, sends, identifies⟩ := damaged_reply_has_no_effect session rfl
  refine ⟨rfl, polls (answered _ _ (by decide)), ?_, ?_⟩
  · refine (sends .loadOn 0 (answered _ _ (by decide))).2 ⟨by decide, ?_, .inr rfl⟩
    exact fun earlier before => absurd before (Nat.not_lt_zero _)
  · refine (identifies 0 (answered _ _ (by decide))).2 ⟨by decide, ?_, .inr rfl⟩
    exact fun earlier before => absurd before (Nat.not_lt_zero _)

end Session

end UpsTelemetry
