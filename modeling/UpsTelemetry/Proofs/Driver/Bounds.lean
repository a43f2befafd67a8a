import UpsTelemetry.Bench.ScriptedLink
import UpsTelemetry.Bench.SimulatedUps
import UpsTelemetry.Proofs.Driver.Guarded
import UpsTelemetry.Proofs.Frame.Integrity
import UpsTelemetry.Proofs.Telemetry.Fields
import UpsTelemetry.Sink.Recorder

/-!
# No link makes the driver reach out of its buffer

A link may claim to have received any number of bytes, LENGTH may announce any number of them, and
the buffer has the size that it has. The driver cuts at the smallest of these, whatever they are.

* `Line.Contained`: what is read of a reply lies inside the buffer, and a reader of anything beyond
  says so.
* `Line.Bounded`: a request yields such a reply, or fails for what is beyond.
* `Driver.FailsInOrder`: an operation of a driver that has read beyond fails as for any other cause.
* `Session.nothing_out_of_range`: all of this, for every link, buffer, driver and session, and no
  access of a session is out of range.
-/

namespace UpsTelemetry

open UpsTelemetry.Frame (headerLength trailerLength startMarker IsLengthText)

/-! ## Replies -/

/-- What can be read of a reply if the link claims that it has `got` bytes. -/
structure Line.Contained {τ : Type} {size : Nat} (line : Line τ size) (got : Nat) : Prop where
  /-- The reply is the front of the buffer. -/
  front : (line.reply got).raw <+: line.buffer.contents
  /-- It has as many bytes as the link claims, but no more than the buffer. -/
  length_raw : (line.reply got).raw.length = min got size
  /-- A field that reaches beyond them is out of range for whoever reads it. -/
  field_beyond : ∀ field : Field, min got size < headerLength + field.offset + field.width →
    (line.reply got).info field.offset field.width = .error (.fieldOutOfRange field.offset)
  /-- So is the return code. -/
  code_beyond : min got size < 9 →
    (line.reply got).returnCode = .error (.shortRead 9 (min got size))
  /-- A frame whose header reaches beyond them is short. -/
  header_beyond : min got size < 13 →
    (line.reply got).verify = .error (.shortRead 13 (min got size))
  /-- So is one that LENGTH says reaches beyond them. -/
  contents_beyond : ∀ (header digits rest : Bytes) (length : Nat),
    (line.reply got).raw = startMarker :: (header ++ digits ++ rest) → header.length = 8 →
    IsLengthText digits length → min got size < 18 + length →
      (line.reply got).verify = .error (.shortRead (18 + length) (min got size))

/-- Whatever length a link claims, a reply is the front of the buffer, and what reaches beyond it is
missed by whoever reads it. -/
theorem Line.contained {τ : Type} {size : Nat} (line : Line τ size) (got : Nat) :
    line.Contained got := by
  have length_raw : (line.reply got).raw.length = min got size := line.buffer.length_received got
  refine ⟨List.take_prefix _ _, length_raw, fun field beyond => ?_, fun beyond => ?_,
    fun beyond => ?_, fun header digits rest length parts eight announced beyond => ?_⟩
  · apply Reply.info_of_not_fits
    unfold Field.Fits
    omega
  · rw [Reply.returnCode_of_cut (by rw [length_raw]; exact beyond), length_raw]
    rfl
  · have cut : (line.reply got).raw.length < 13 := by omega
    rw [← length_raw]
    exact (Frame.FirstFault.short cut).verify_eq
  · -- What stands behind LENGTH is all of the reply but the thirteen bytes of its header.
    have length_rest : min got size = 13 + rest.length := by
      rw [← length_raw, parts]
      simp only [List.length_cons, List.length_append, eight, announced.length_eq]
      omega
    have cut : rest.length < length + 5 := by omega
    have truncated := (Frame.FirstFault.truncated eight announced cut).verify_eq
    rw [← parts, ← length_rest] at truncated
    exact truncated

/-! ## Requests -/

variable {τ ε σ : Type} {size : Nat} [Link τ ε]

/-- What a request comes to, with respect to the buffer. -/
structure Line.Bounded (line : Line τ size) (config : Config) (command : Command) (payload : Bytes)
    (minimumInfo : Nat) : Prop where
  /-- A reply that is yielded is what can be read of the exchange's. -/
  reply_eq : ∀ reply, (line.request config command payload minimumInfo).1 = .ok reply →
    ∃ got, line.exchange config command payload =
        (.ok got, (line.request config command payload minimumInfo).2) ∧
      headerLength + minimumInfo ≤ got ∧
      reply = (line.request config command payload minimumInfo).2.reply got
  /-- With a return code beyond the buffer the request fails, however many bytes are claimed. -/
  code_beyond : ∀ got line', line.exchange config command payload = (.ok got, line') →
    headerLength + minimumInfo ≤ got → size < 9 →
      (line.request config command payload minimumInfo).1 = .error (.frame (.shortRead 9 size))
  /-- With strict settings it fails for what is wrong with the frame in the buffer. -/
  fault : ∀ got line' error, line.exchange config command payload = (.ok got, line') →
    headerLength + minimumInfo ≤ got → (line'.reply got).returnCode = .ok 0x00 →
    config.strict = true → (line'.reply got).verify = .error error →
      (line.request config command payload minimumInfo).1 = .error (.frame error)

/-- Whatever length a link claims, a request looks at no more than the buffer holds, and fails for
what is missing there. -/
theorem Line.bounded (line : Line τ size) (config : Config) (command : Command) (payload : Bytes)
    (minimumInfo : Nat) : line.Bounded config command payload minimumInfo := by
  refine ⟨fun reply answered => ?_, fun got line' exchanged enough small => ?_,
    fun got line' error exchanged enough success strict faulty => ?_⟩
  · obtain ⟨got, line', exchanged, rfl, accepted⟩ := request_eq_ok_iff.1 answered
    have after : (line.request config command payload minimumInfo).2 = line' := by
      rw [request_eq, exchanged]
    exact ⟨got, by rw [after, exchanged], accepted.enough, by rw [after]⟩
  · have cut : min got line'.buffer.contents.length = size := by
      rw [line'.buffer.length_contents]
      unfold headerLength at enough
      omega
    have refused : accept (.ok got : Except (DriverError ε) Nat) line'.buffer.contents
        (headerLength + minimumInfo) = _ := (Refusal.noCode enough (by omega)).accept_eq
    rw [request_eq, exchanged, refused, cut]
    rfl
  · rw [request_of_success exchanged enough success]
    exact checked_eq_error_iff.2 ⟨error, strict, faulty, rfl⟩

/-! ## Operations -/

/-- How the operations of a driver fail. -/
structure Driver.FailsInOrder (driver : Driver τ size) : Prop where
  /-- A poll step whose reply lacks a field says which is the first that is missing. -/
  read_beyond : ∀ hasStatus reply field, driver.pollOnce.1 = .ok reply →
    driver.state.fields.find? (fun field => ¬ field.Fits reply) = some field →
      (driver.read hasStatus).1 = .error (.frame (.fieldOutOfRange field.offset))
  /-- A poll step that fails marks the data as old, and of the driver only the link changes. -/
  poll_failed : ∀ hasStatus error, (driver.read hasStatus).1 = .error error →
    driver.poll hasStatus = ([.markStale], { driver with link := driver.pollOnce.2.link })
  /-- In a buffer that ends before the model name does no UPS is identified, however many bytes are
  claimed. -/
  model_beyond : ∀ got line', driver.identifyTries = (.ok got, line') →
    VendorInfo.minimumLength ≤ got →
    size < headerLength + VendorInfo.modelAt + VendorInfo.modelWidth →
      driver.identify.1 = .error (.frame (.fieldOutOfRange VendorInfo.modelAt))
  /-- If no UPS is identified, only the link changes. -/
  identify_failed : ∀ error, driver.identify.1 = .error error →
    driver.identify.2 = { driver with link := driver.identifyTries.2.link }
  /-- If a command is not acknowledged, only the link changes. -/
  send_failed : ∀ command error, (driver.sendCommand command).1 = .error error →
    (driver.sendCommand command).2 = { driver with link := (driver.commandTries command).2.link }

/-- What a reply misses makes an operation fail like any other cause: nothing but the link of the
driver changes. -/
theorem Driver.failsInOrder (driver : Driver τ size) : driver.FailsInOrder := by
  refine ⟨fun hasStatus reply field answered missing => ?_, fun hasStatus error failed => ?_,
    fun got line' tries enough small => ?_, fun error failed => ?_, fun command error failed => ?_⟩
  · rw [read_eq, answered]
    exact congrArg (Except.mapError DriverError.frame)
      ((Report.readsFields_ofReply driver.state hasStatus).error_of_misfit reply field missing)
  · unfold poll
    rw [← Prod.eta (driver.read hasStatus), failed]
    rfl
  · have beyond := (line'.contained got).field_beyond ⟨VendorInfo.modelAt, VendorInfo.modelWidth⟩
      (by dsimp only; omega)
    have unread : VendorInfo.model (line'.reply got) =
        .error (.fieldOutOfRange VendorInfo.modelAt) :=
      congrArg (Except.map (Padded.text (VendorInfo.modelWidth / 2))) beyond
    rw [identify_fst, tries]
    simp only [Except.bind, identityOf, if_neg (Nat.not_lt.2 enough), unread]
  · rw [identify_fst] at failed
    rw [identify_eq, failed]
  · rw [sendCommand_fst] at failed
    rw [sendCommand_eq]
    cases outcome : (driver.commandTries command).1 with
    | error error' => rfl
    | ok reply =>
      rw [outcome] at failed
      cases failed

/-! ## Sessions -/

namespace Session

/-- **No link makes the driver reach out of its buffer.** Whatever a link claims to have received
and whatever it leaves in the buffer, of any size, every operation of a session comes to its end
without an access out of range. Every reply that is looked at is the front of the buffer, and has
as many bytes as the link claims or as the buffer has, if those are fewer. What is not among them is
out of range for its reader or makes the frame short, and the operation fails as for any other
cause. -/
theorem nothing_out_of_range [TelemetrySink σ] (operations : List Operation)
    (session : Session τ σ size) :
    Guarded.run operations session = some (run operations session) ∧
      (∀ (line : Line τ size) got, line.Contained got) ∧
      (∀ (line : Line τ size) config command payload minimumInfo,
        line.Bounded config command payload minimumInfo) ∧
      ∀ driver : Driver τ size, driver.FailsInOrder :=
  ⟨Guarded.run_eq operations session, Line.contained, Line.bounded, Driver.failsInOrder⟩

/-- The parameters are read into a buffer of twenty bytes, of which the link claims that 124 came.
The reply is accepted by the twenty, and the nominal voltage is beyond them. -/
theorem nothing_out_of_range_of_small_buffer :
    let bytes := SimulatedUps.reply 0x00 (List.replicate 106 0x30)
    let link : ScriptedLink := ⟨{}, [{ receive := .ok bytes }]⟩
    let driver : Driver ScriptedLink 20 := .new link (Config.standard.withStrict false)
    let session : Session ScriptedLink Recorder 20 := ⟨driver, .empty⟩
    Guarded.run [.poll] session = some (run [.poll] session) ∧
      20 < bytes.length ∧
      driver.pollOnce.1 = .ok ⟨bytes.take 20⟩ ∧
      (driver.read fun _ => false).1 =
        .error (.frame (.fieldOutOfRange SystemParameters.nominalVoltageAt)) ∧
      driver.poll (fun _ => false) =
        ([.markStale], { driver with link := driver.pollOnce.2.link }) := by
  intro bytes link driver session
  obtain ⟨runs, -, -, fails⟩ := nothing_out_of_range [.poll] session
  have answered : driver.pollOnce.1 = .ok ⟨bytes.take 20⟩ := by decide +kernel
  have beyond := (fails driver).read_beyond (fun _ => false) _
    (.word SystemParameters.nominalVoltageAt) answered (by decide +kernel)
  exact ⟨runs, by decide +kernel, answered, beyond, (fails driver).poll_failed _ _ beyond⟩

end Session

end UpsTelemetry
