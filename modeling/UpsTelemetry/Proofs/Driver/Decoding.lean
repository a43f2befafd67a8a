import UpsTelemetry.Bench.SimulatedUps
import UpsTelemetry.Proofs.Bench.Reply
import UpsTelemetry.Proofs.Driver.PollStep
import UpsTelemetry.Proofs.Frame.Integrity
import UpsTelemetry.Proofs.Link.Filling
import UpsTelemetry.Proofs.Telemetry.Warnings
import UpsTelemetry.Sink.Recorder

/-!
# Accepted replies can be read

A reply is accepted by the number of bytes that came, and read field by field. The two go together:
no field of a telemetry frame reaches beyond what was asked for, and nothing that stands in a field
makes its reader fail. So after a reply has been accepted there is no reason left to fail, as long
as the link reports no more bytes than it put into the buffer.

* `DecidedByLength`: whether a record can be read is a matter of the number of bytes alone, and if
  not, at which field reading fails.
* `Line.Failure`: why a request brings no accepted reply. It fails for one of these causes
  (`Line.failure_of_request`), and none of them is about a field
  (`Line.Failure.ne_fieldOutOfRange`).
* `Session.accepted_replies_are_read`: the main statement.
-/

namespace UpsTelemetry

open UpsTelemetry.Frame (headerLength overhead requestCapacity)

/-! ## Records -/

/-- Whether a record can be read is a matter of the number of bytes. -/
structure DecidedByLength {α : Type} (read : Reply → Except FrameError α) (fields : List Field)
    (needed : Nat) : Prop where
  /-- These fields are read, and nothing else. -/
  reads : ReadsFields read fields
  /-- The record is read exactly if so many characters were received behind the header. -/
  ok_iff : ∀ reply, (∃ value, read reply = .ok value) ↔ headerLength + needed ≤ reply.raw.length
  /-- If not, the error is the offset of the field that stands first among those that were not
  received. -/
  error_iff : ∀ reply fault, read reply = .error fault ↔
    ∃ field, Field.FirstMissing fields reply field ∧ fault = .fieldOutOfRange field.offset

/-- A reader of fields in the order of their offsets is decided by where the last of them ends. -/
theorem ReadsFields.decidedByLength {α : Type} {read : Reply → Except FrameError α}
    {fields : List Field} (reads : ReadsFields read fields) (some : fields ≠ [])
    (sorted : fields.Pairwise fun first second => first.offset ≤ second.offset) :
    DecidedByLength read fields (Field.extent fields) where
  reads := reads
  ok_iff reply := (reads.exists_ok_iff reply).trans (Field.forall_fits_iff some reply)
  error_iff := reads.error_iff sorted

/-- No field that is read reaches beyond the characters that are asked for. -/
theorem PollState.extent_le_minimumInfo (state : PollState) :
    Field.extent state.fields ≤ state.minimumInfo := by
  cases state <;> decide

/-- A reply with as many characters as are asked for holds a report, whatever they are. -/
theorem Report.exists_ofReply {state : PollState} {reply : Reply}
    (enough : headerLength + state.minimumInfo ≤ reply.raw.length) (hasStatus : String → Bool) :
    ∃ report, ofReply state hasStatus reply = .ok report := by
  have some : state.fields ≠ [] := by cases state <;> decide
  have inside := state.extent_le_minimumInfo
  apply (readsFields_ofReply state hasStatus).ok_of_fits
  exact (Field.forall_fits_iff some reply).2 (by omega)

/-! ## Requests -/

variable {τ ε σ : Type} {size : Nat} [Link τ ε]

/-- A link reports no more bytes than the buffer holds. -/
def Link.ReportsWithin (τ : Type) {ε : Type} [Link τ ε] (size : Nat) : Prop :=
  ∀ (buffer : ReceiveBuffer size) (timeoutMillis : Nat) (link : τ) (got : Nat),
    (Link.receive buffer timeoutMillis link).1 = .ok got → got ≤ size

/-- What is wrong with a frame as such is not a field that was not received. -/
theorem Frame.FirstFault.ne_fieldOutOfRange {raw : Bytes} {fault : FrameError}
    (faulty : FirstFault raw fault) (offset : Nat) : fault ≠ .fieldOutOfRange offset := by
  cases faulty <;> nofun

namespace Line

/-- Why a request brings no accepted reply. -/
inductive Failure (line : Line τ size) (config : Config) (command : Command) (payload : Bytes)
    (minimumInfo : Nat) : DriverError ε → Prop
  /-- The link had a fault. -/
  | link {fault : ε} (failed : (line.exchange config command payload).1 = .error (.link fault)) :
      Failure line config command payload minimumInfo (.link fault)
  /-- The request did not go out, or nothing came back, in time. -/
  | timeout (failed : (line.exchange config command payload).1 = .error .timeout) :
      Failure line config command payload minimumInfo .timeout
  /-- Too few bytes came back. -/
  | short {got expected came : Nat} {line' : Line τ size}
      (exchanged : line.exchange config command payload = (.ok got, line'))
      (refusal : Refusal line'.buffer.contents (headerLength + minimumInfo)
        (.ok got : Except (DriverError ε) Nat) (.frame (.shortRead expected came))) :
      Failure line config command payload minimumInfo (.frame (.shortRead expected came))
  /-- The UPS rejected the request. -/
  | rejected {got : Nat} {code : ReturnCode} {line' : Line τ size}
      (exchanged : line.exchange config command payload = (.ok got, line'))
      (refusal : Refusal line'.buffer.contents (headerLength + minimumInfo)
        (.ok got : Except (DriverError ε) Nat) (.rejected code)) :
      Failure line config command payload minimumInfo (.rejected code)
  /-- The settings are strict, and the frame is damaged. -/
  | damaged {got : Nat} {fault : FrameError} {line' : Line τ size}
      (exchanged : line.exchange config command payload = (.ok got, line'))
      (enough : headerLength + minimumInfo ≤ got)
      (success : (line'.reply got).returnCode = .ok 0x00) (strict : config.strict = true)
      (faulty : Frame.FirstFault (line'.reply got).raw fault) :
      Failure line config command payload minimumInfo (.frame fault)

variable {line : Line τ size} {config : Config} {command : Command} {payload : Bytes}
  {minimumInfo : Nat}

/-- None of the causes is a field that was not received. -/
theorem Failure.ne_fieldOutOfRange {error : DriverError ε}
    (failure : line.Failure config command payload minimumInfo error) (offset : Nat) :
    error ≠ .frame (.fieldOutOfRange offset) := by
  intro same
  cases failure with
  | damaged exchanged enough success strict faulty =>
    exact faulty.ne_fieldOutOfRange offset (DriverError.frame.inj same)
  | _ => cases same

/-- An exchange fails for a fault of the link or because time ran out, if its request has room. -/
theorem exchange_error_cases (fits : payload.length + overhead ≤ requestCapacity)
    {error : DriverError ε} (failed : (line.exchange config command payload).1 = .error error) :
    (∃ fault, error = .link fault) ∨ error = .timeout := by
  unfold exchange sendAndAwait await at failed
  rw [Frame.request?_of_fits fits] at failed
  dsimp only at failed
  repeat' split at failed
  all_goals cases failed
  all_goals simp

/-- What an exchange brings is refused for one of the causes. -/
theorem failure_of_refusal (fits : payload.length + overhead ≤ requestCapacity)
    {read : Except (DriverError ε) Nat} {line' : Line τ size} {error : DriverError ε}
    (exchanged : line.exchange config command payload = (read, line'))
    (refusal : Refusal line'.buffer.contents (headerLength + minimumInfo) read error) :
    line.Failure config command payload minimumInfo error := by
  cases refusal with
  | failed =>
    have unanswered : (line.exchange config command payload).1 = .error error := by rw [exchanged]
    rcases exchange_error_cases fits unanswered with ⟨fault, rfl⟩ | rfl
    · exact .link unanswered
    · exact .timeout unanswered
  | short few => exact .short exchanged (.short few)
  | noCode enough cut => exact .short exchanged (.noCode enough cut)
  | rejected enough text value nonzero =>
    exact .rejected exchanged (.rejected enough text value nonzero)

/-- A request fails for one of the causes. -/
theorem failure_of_request (fits : payload.length + overhead ≤ requestCapacity)
    {error : DriverError ε}
    (failed : (line.request config command payload minimumInfo).1 = .error error) :
    line.Failure config command payload minimumInfo error := by
  obtain ⟨read, line', exchanged⟩ :
      ∃ read line', line.exchange config command payload = (read, line') := ⟨_, _, rfl⟩
  rw [request_eq, exchanged] at failed
  dsimp only at failed
  cases verdict : accept read line'.buffer.contents (headerLength + minimumInfo) with
  | error error' =>
    rw [verdict] at failed
    obtain rfl : error' = error := Except.error.inj failed
    exact failure_of_refusal fits exchanged (accept_eq_error_iff.1 verdict)
  | ok reply =>
    obtain ⟨got, rfl, rfl, enough, success⟩ := accept_eq_ok_iff.1 verdict
    rw [verdict] at failed
    obtain ⟨fault, strict, damaged, rfl⟩ := checked_eq_error_iff.1 failed
    exact .damaged exchanged enough success strict (Frame.verify_eq_error_iff.1 damaged)

/-- Each cause makes a request fail. -/
theorem Failure.request_eq_error {error : DriverError ε}
    (failure : line.Failure config command payload minimumInfo error) :
    (line.request config command payload minimumInfo).1 = .error error := by
  cases failure with
  | link failed => rw [request_eq, failed]; rfl
  | timeout failed => rw [request_eq, failed]; rfl
  | short exchanged refusal => rw [request_eq, exchanged, refusal.accept_eq]; rfl
  | rejected exchanged refusal => rw [request_eq, exchanged, refusal.accept_eq]; rfl
  | @damaged got fault line' exchanged enough success strict faulty =>
    rw [request_of_success exchanged enough success]
    exact checked_eq_error_iff.2 ⟨fault, strict, Frame.verify_eq_error_iff.2 faulty, rfl⟩

end Line

/-! ## Polls -/

namespace Session

variable [TelemetrySink σ]

/-- Why the request of a poll step brings no accepted reply. -/
abbrev PollFailure (session : Session τ σ size) (error : DriverError ε) : Prop :=
  (Line.fresh session.driver.link size).Failure session.driver.config
    session.driver.state.command [] session.driver.state.minimumInfo error

/-- Over a link that reports within the buffer, the telemetry of an accepted reply can be read. -/
theorem exists_report_of_request (within : Link.ReportsWithin τ size) {line : Line τ size}
    {config : Config} {state : PollState} {reply : Reply}
    (accepted : (line.request config state.command [] state.minimumInfo).1 = .ok reply)
    (hasStatus : String → Bool) : ∃ report, Report.ofReply state hasStatus reply = .ok report := by
  obtain ⟨got, line', exchanged, rfl, enough, -, -⟩ := Line.request_eq_ok_iff.1 accepted
  obtain ⟨-, link, received⟩ := Line.received_of_exchange exchanged
  have inside : got ≤ size := within line.buffer config.timeoutMillis link got (by rw [received])
  apply Report.exists_ofReply
  have length : (line'.reply got).raw.length = min got size := line'.buffer.length_received got
  rw [length, Nat.min_eq_left inside]
  exact enough

omit [TelemetrySink σ] in
/-- Over such a link a poll step fails for one of the causes of its request. -/
theorem read_eq_error_iff (within : Link.ReportsWithin τ size) (session : Session τ σ size)
    (hasStatus : String → Bool) (error : DriverError ε) :
    (session.driver.read hasStatus).1 = .error error ↔ session.PollFailure error := by
  have causes : session.driver.pollOnce.1 = .error error ↔ session.PollFailure error :=
    ⟨Line.failure_of_request (by decide), Line.Failure.request_eq_error⟩
  rw [← causes, Driver.read_eq]
  cases requested : session.driver.pollOnce.1 with
  | error fault => simp only [Except.bind, Except.error.injEq]
  | ok reply =>
    obtain ⟨report, made⟩ := exists_report_of_request within requested hasStatus
    simp only [Except.bind, made, Except.mapError, reduceCtorEq]

/-- **The telemetry of an accepted reply can be read.** Whether a record can be read is decided by
the number of bytes, and never by what stands in them: the on/off status takes 12 characters of
INFO, the measurements 86, the parameters 82 and the warnings 54. As many are asked for at least, so
over a link that reports no more bytes than the buffer holds there is a report on every accepted
reply. A poll step then fails exactly if its request does: for a fault of the link, for want of time
or of bytes, because the UPS rejects it, or because the frame is damaged. No field is ever
missing. -/
theorem accepted_replies_are_read (within : Link.ReportsWithin τ size) :
    (DecidedByLength OnOffStatus.ofReply OnOffStatus.fields 12 ∧
      DecidedByLength AnalogReading.ofReply AnalogReading.fields 86 ∧
      DecidedByLength SystemParameters.ofReply SystemParameters.fields 82 ∧
      DecidedByLength Warnings.ofReply Warnings.fields 54) ∧
    (∀ (line : Line τ size) config state hasStatus reply,
      (line.request config state.command [] state.minimumInfo).1 = .ok reply →
        ∃ report, Report.ofReply state hasStatus reply = .ok report) ∧
    ∀ session : Session τ σ size,
      (session.Stalled (session.perform .poll).1 (session.perform .poll).2 ↔
        ∃ error, session.PollFailure error) ∧
      (∀ hasStatus error, (session.driver.read hasStatus).1 = .error error ↔
        session.PollFailure error) ∧
      ∀ error offset, session.PollFailure error → error ≠ .frame (.fieldOutOfRange offset) := by
  refine ⟨⟨OnOffStatus.readsFields_ofReply.decidedByLength (by decide) (by decide),
    AnalogReading.readsFields_ofReply.decidedByLength (by decide) (by decide),
    SystemParameters.readsFields_ofReply.decidedByLength (by decide) (by decide),
    Warnings.readsFields_ofReply.decidedByLength (by decide) (by decide)⟩,
    fun line config state hasStatus reply accepted =>
      exists_report_of_request within accepted hasStatus,
    fun session => ⟨?_, session.read_eq_error_iff within,
      fun error offset failure => failure.ne_fieldOutOfRange offset⟩⟩
  have fails := session.read_eq_error_iff within (TelemetrySink.hasStatus session.sink)
  constructor
  · intro stalled
    cases outcome : (session.driver.read (TelemetrySink.hasStatus session.sink)).1 with
    | error error => exact ⟨error, (fails error).1 outcome⟩
    | ok report => exact absurd (Driver.read_eq_ok_iff.1 outcome) (stalled.unread report)
  · rintro ⟨error, failure⟩
    refine stalled_of_not_reads fun report read => ?_
    have outcome := (fails error).2 failure
    rw [Driver.read_eq_ok_iff.2 read] at outcome
    cases outcome

/-- Measurements of 86 characters, the fewest that are asked for, come in over a serial line and are
read, though no character of them is anything that the UPS should send. -/
theorem accepted_measurements_are_read :
    let reply : Reply := ⟨SimulatedUps.reply 0x00 (List.replicate 86 0x46)⟩
    let ups : SimulatedUps := { replies := [reply.raw] }
    let line : Line (SerialLink SimulatedUps) 128 := .fresh ⟨ups⟩ 128
    Link.ReportsWithin (SerialLink SimulatedUps) 128 ∧
      (line.request .standard .readAnalog [] 86).1 = .ok reply ∧
      ∃ report, Report.ofReply .analog (fun _ => true) reply = .ok report := by
  intro reply ups line
  have within : Link.ReportsWithin (SerialLink SimulatedUps) 128 :=
    (SerialLink.fills SimulatedUps 128).within
  have digits : ∀ char ∈ (List.replicate 86 0x46 : Bytes), Hex.isDigit char = true := by
    intro char mem
    obtain ⟨-, rfl⟩ := List.mem_replicate.1 mem
    decide
  have accepted : (line.request .standard .readAnalog [] 86).1 = .ok reply :=
    Line.request_eq_ok_iff.2 (SimulatedUps.accepts_reply rfl rfl rfl (by decide) (by decide)
      digits (by decide) (by decide) (by decide))
  obtain ⟨-, read, -⟩ := @accepted_replies_are_read _ _ Recorder _ _ _ within
  exact ⟨within, accepted, read line .standard .analog _ reply accepted⟩

end Session

end UpsTelemetry
