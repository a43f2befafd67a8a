import UpsTelemetry.Bench.ScriptedLink
import UpsTelemetry.Bench.SimulatedUps
import UpsTelemetry.Driver.Basic
import UpsTelemetry.Proofs.Driver.Exchange
import UpsTelemetry.Proofs.Frame.Damage
import UpsTelemetry.Proofs.Telemetry.Fields

/-!
# How much INFO an accepted reply has

A caller asks for a number of characters of INFO, and a reply is accepted by the number of all bytes
that came. The five bytes behind INFO are counted as if they were part of it, so an accepted reply
may have up to five characters less than were asked for, and a reader of the missing ones gets
CHKSUM instead.

* `IntactFrame.InfoAlone`: a report on a frame comes from its INFO alone.
* `IntactFrame.infoAlone_iff`: it does exactly if INFO holds the fields that are read.
* `Line.accepted_info`: how much INFO an accepted reply has, and which reports stay inside it.
-/

namespace UpsTelemetry

open UpsTelemetry.Frame (IntactFrame headerLength trailerLength lengthAt announcedLength startMarker
  endMarker body checksumText)

/-! ## Reports on frames -/

namespace Frame.IntactFrame

/-- The bytes of a frame up to the end of INFO. -/
def front (frame : IntactFrame) : Bytes :=
  startMarker :: body frame.header frame.info

/-- An intact frame is what stands before CHKSUM, then CHKSUM, the end marker and what trails it. -/
theorem bytes_eq_front (frame : IntactFrame) :
    frame.bytes = frame.front ++
      (checksumText (body frame.header frame.info) ++ endMarker :: frame.tail) := by
  unfold bytes front Frame.sealed
  simp

/-- Before CHKSUM there are the header and INFO. -/
theorem length_front (frame : IntactFrame) :
    frame.front.length = headerLength + frame.info.length := by
  simp only [front, body, List.length_cons, List.length_append, length_lengthText,
    frame.length_header, headerLength]
  omega

/-- The bytes of an intact frame with all that trails it, counted. -/
theorem length_bytes (frame : IntactFrame) :
    frame.bytes.length =
      headerLength + frame.info.length + trailerLength + frame.tail.length := by
  rw [bytes, List.length_append, length_sealed, frame.length_header, headerLength, trailerLength]
  omega

/-- A state's report on a frame comes from what stands up to the end of INFO: it is the same with
anything else in the place of CHKSUM, the end marker and the tail. -/
def InfoAlone (frame : IntactFrame) (state : PollState) (hasStatus : String → Bool) : Prop :=
  ∀ behind, Report.ofReply state hasStatus ⟨frame.front ++ behind⟩ =
    Report.ofReply state hasStatus ⟨frame.bytes⟩

/-- Some fields are all there if INFO and what stands behind it are long enough. -/
theorem forall_fits_iff (frame : IntactFrame) (behind : Bytes) (fields : List Field) :
    (∀ field ∈ fields, field.Fits ⟨frame.front ++ behind⟩) ↔
      Field.extent fields ≤ frame.info.length + behind.length := by
  rw [Field.extent_le_iff]
  refine forall₂_congr fun field _ => ?_
  unfold Field.Fits
  rw [List.length_append, length_front]
  omega

/-- A report comes from INFO alone exactly if INFO holds all fields that are read. If it does not,
then it depends on the bytes behind INFO whether there is a report at all. -/
theorem infoAlone_iff {frame : IntactFrame} {state : PollState} {hasStatus : String → Bool} :
    frame.InfoAlone state hasStatus ↔ Field.extent state.fields ≤ frame.info.length := by
  have reads := Report.readsFields_ofReply state hasStatus
  constructor
  · intro alone
    -- With enough bytes behind INFO there is a report, so there is one with none.
    generalize long_eq : List.replicate (Field.extent state.fields) (0 : UInt8) = long
    have length_long : long.length = Field.extent state.fields := by
      rw [← long_eq, List.length_replicate]
    have enough := (frame.forall_fits_iff long state.fields).2 (by omega)
    obtain ⟨report, made⟩ := reads.ok_of_fits _ enough
    rw [alone long, ← alone []] at made
    have fits := (reads.exists_ok_iff ⟨frame.front ++ []⟩).1 ⟨report, made⟩
    simpa using (frame.forall_fits_iff [] state.fields).1 fits
  · intro long behind
    have fits : ∀ field ∈ state.fields, field.Fits ⟨frame.front⟩ := by
      simpa using (frame.forall_fits_iff [] state.fields).2 long
    rw [frame.bytes_eq_front, reads.append fits, reads.append fits]

end Frame.IntactFrame

/-! ## Accepted replies -/

/-- The on/off and the parameter frame are asked for with more INFO than is read. The other two are
read to the end. -/
theorem PollState.extent_fields (state : PollState) :
    (state = .onOff ∨ state = .parameters) ∧
        Field.extent state.fields + trailerLength ≤ state.minimumInfo ∨
      (state = .analog ∨ state = .warning) ∧ Field.extent state.fields = state.minimumInfo := by
  cases state <;> decide

namespace Line

variable {τ ε : Type} {size : Nat}

/-- What a link claims to have received is what the buffer holds of it and what it does not. -/
theorem claimed_eq {line : Line τ size} {got : Nat} {frame : IntactFrame}
    (raw : (line.reply got).raw = frame.bytes) :
    got = headerLength + frame.info.length + trailerLength + frame.tail.length + (got - size) := by
  have length : min got size = frame.bytes.length := by
    rw [← raw, ← line.buffer.length_received got]
    rfl
  rw [frame.length_bytes] at length
  omega

variable [Link τ ε]

/-- With strict settings an exchange brings an accepted reply exactly if it brings an intact frame
that reports success, with enough bytes behind the header. -/
theorem accepts_iff_of_strict {line : Line τ size} {config : Config} {command : Command}
    {payload : Bytes} {minimumInfo : Nat} {reply : Reply} (strict : config.strict = true) :
    line.Accepts config command payload minimumInfo reply ↔
      ∃ got line' frame, line.exchange config command payload = (.ok got, line') ∧
        reply = line'.reply got ∧ reply.returnCode = .ok 0x00 ∧
        reply.raw = IntactFrame.bytes frame ∧
        minimumInfo ≤
          frame.info.length + trailerLength + frame.tail.length + (got - size) := by
  constructor
  · rintro ⟨got, line', exchanged, rfl, enough, success, intact⟩
    obtain ⟨frame, raw⟩ := Frame.verify_eq_ok_iff.1 (intact strict)
    have total := claimed_eq raw.symm
    exact ⟨got, line', frame, exchanged, rfl, success, raw.symm, by omega⟩
  · rintro ⟨got, line', frame, exchanged, rfl, success, raw, enough⟩
    have total := claimed_eq raw
    have intact : (line'.reply got).verify = .ok () := Frame.verify_eq_ok_iff.2 ⟨frame, raw.symm⟩
    exact ⟨got, line', exchanged, rfl, by omega, success, fun _ => intact⟩

/-- **How much INFO an accepted reply has.** With strict settings a reply is accepted exactly if it
is an intact frame that reports success in which INFO *and the bytes behind it* are as many as were
asked for. LENGTH announces INFO alone, which may be less: by the five bytes of CHKSUM and the end
marker, and by those that trail the frame or that the link only claims to have received.

A report comes from INFO alone exactly if INFO holds the fields that are read. If nothing trails an
accepted frame, that is always so of the on/off status and the parameters; it is so of the
measurements and the warnings exactly if INFO has the characters that were asked for. -/
theorem accepted_info {config : Config} (strict : config.strict = true) (line : Line τ size)
    (command : Command) (payload : Bytes) (minimumInfo : Nat) :
    (∀ reply, (line.request config command payload minimumInfo).1 = .ok reply ↔
      ∃ got line' frame, line.exchange config command payload = (.ok got, line') ∧
        reply = line'.reply got ∧ reply.returnCode = .ok 0x00 ∧
        reply.raw = IntactFrame.bytes frame ∧
        minimumInfo ≤
          frame.info.length + trailerLength + frame.tail.length + (got - size)) ∧
    ∀ frame : IntactFrame,
      announcedLength (Hex.leadingWord ((frame.bytes.drop lengthAt).take 4)) =
          frame.info.length ∧
        ∀ state hasStatus,
          (frame.InfoAlone state hasStatus ↔
            Field.extent state.fields ≤ frame.info.length) ∧
          (state.minimumInfo ≤ frame.info.length + trailerLength →
            (frame.InfoAlone state hasStatus ↔
              state = .onOff ∨ state = .parameters ∨
                state.minimumInfo ≤ frame.info.length)) := by
  refine ⟨fun reply => request_eq_ok_iff.trans (accepts_iff_of_strict strict), fun frame => ?_⟩
  refine ⟨Frame.announcedLength_of_bytes frame, fun state hasStatus => ?_⟩
  refine ⟨IntactFrame.infoAlone_iff, fun counted => ?_⟩
  rw [IntactFrame.infoAlone_iff]
  rcases state.extent_fields with ⟨spare, extent⟩ | ⟨tight, extent⟩
  · exact iff_of_true (by omega) (by tauto)
  · rw [extent]
    rcases tight with rfl | rfl <;> simp

/-- The warning frame with two characters missing from INFO is accepted, and a report on it is not
from INFO alone. -/
theorem accepted_info_of_short_warnings :
    let frame : IntactFrame :=
      ⟨SimulatedUps.replyHeader 0x00, List.replicate 52 0x41, [], rfl, by decide⟩
    let line : Line ScriptedLink standardBufferSize :=
      .fresh ⟨{}, [{ receive := .ok frame.bytes }]⟩ standardBufferSize
    Config.standard.strict = true ∧
      (line.request .standard .readWarnings [] PollState.warning.minimumInfo).1 =
        .ok ⟨frame.bytes⟩ ∧
      PollState.warning.minimumInfo ≤ frame.info.length + trailerLength ∧
      ¬ frame.InfoAlone .warning fun _ => false := by
  intro frame line
  have strict : Config.standard.strict = true := rfl
  obtain ⟨accepted, frames⟩ :=
    accepted_info strict line .readWarnings [] PollState.warning.minimumInfo
  have counted : PollState.warning.minimumInfo ≤ frame.info.length + trailerLength := by decide
  refine ⟨strict, (accepted _).2 ⟨frame.bytes.length, (line.exchange .standard .readWarnings []).2,
    frame, ?_, ?_, ?_, rfl, ?_⟩, counted, fun alone => ?_⟩
  · rfl
  · rfl
  · rfl
  · decide
  · have short := (((frames frame).2 .warning fun _ => false).2 counted).1 alone
    revert short
    decide

/-- The alarm at the end of that frame is read out of its checksum, which happens to begin with the
digits of an active warning. -/
theorem alarm_from_checksum :
    let reply : Reply := ⟨SimulatedUps.reply 0x00 (List.replicate 52 0x41)⟩
    let link : ScriptedLink := ⟨{}, [{ receive := .ok reply.raw }]⟩
    let driver : Driver ScriptedLink standardBufferSize := ⟨link, .standard, .warning⟩
    let line : Line ScriptedLink standardBufferSize := .fresh link standardBufferSize
    driver.config.strict = true ∧
      (line.request driver.config .readWarnings [] PollState.warning.minimumInfo).1 = .ok reply ∧
      announcedLength (Hex.leadingWord ((reply.raw.drop lengthAt).take 4)) <
        PollState.warning.minimumInfo ∧
      (driver.poll fun _ => false).1 =
        SinkEvent.replaceAlarms ["Battery Not Found"] ++ [.markFresh] := by
  refine ⟨rfl, ?_, ?_, ?_⟩
  · decide +kernel
  · decide +kernel
  · decide +kernel

end Line

end UpsTelemetry
