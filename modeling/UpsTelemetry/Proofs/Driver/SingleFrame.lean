import UpsTelemetry.Bench.SimulatedUps
import UpsTelemetry.Proofs.Bench.ScriptedUart
import UpsTelemetry.Proofs.Driver.Attempts
import UpsTelemetry.Proofs.Frame.Markers
import UpsTelemetry.Proofs.Link.Filling

/-!
# A reply that passes is one frame

The reader of frames finds the end of a frame by its LENGTH and tolerates what trails it. A serial
link finds it by the end marker, and knows nothing of LENGTH, while INFO may hold any bytes. Where
the two come together they leave no choice: the marker that the reader wants behind CHKSUM is the
only one received, and so the last byte.

* `Line.reply_ends`: a serial link receives no end marker before the last byte.
* `Line.reply_is_one_frame`: if such a reply passes, it is one frame, whole and alone.
-/

namespace UpsTelemetry

open UpsTelemetry.Frame (endMarker)

namespace Line

variable {υ ε : Type} [Fault ε] [Uart υ ε] [FiniteInput υ] {size : Nat} {config : Config}
  {command : Command} {payload : Bytes}

/-- A reply over a serial link has no end marker before its last byte. -/
theorem reply_ends {line line' : Line (SerialLink υ) size} {got : Nat}
    (exchanged : line.exchange config command payload = (.ok got, line')) :
    endMarker ∉ (line'.reply got).raw.dropLast := by
  obtain ⟨-, link, received⟩ := received_of_exchange exchanged
  have ends := SerialLink.collect_ends line.buffer 0 link.uart nofun (Nat.zero_le size) got
  have outcome : (SerialLink.collect line.buffer 0 link.uart).1 = .ok got :=
    congrArg Prod.fst received
  have buffer : (SerialLink.collect line.buffer 0 link.uart).2.1 = line'.buffer :=
    congrArg (·.2.1) received
  rw [buffer] at ends
  exact ends outcome

/-- **A reply that passes is one frame.** Over a serial link, whatever its UART does and however it
cuts and fails, the bytes of a reply are as many as were reported, and what an earlier reply left in
the buffer is not among them. If they begin with an intact frame then they end with it: their number
is the one that LENGTH announces, and the end marker is the last of them and no other. So it is with
every reply that strict settings accept, also for identification. The reader alone would have let
anything trail the frame. -/
theorem reply_is_one_frame (line : Line (SerialLink υ) size) (config : Config) (command : Command)
    (payload : Bytes) :
    (∀ got line', line.exchange config command payload = (.ok got, line') →
      let bytes := (line'.reply got).raw
      bytes.length = got ∧
      (∀ buffer, ∃ line'', (⟨line.link, buffer⟩ : Line (SerialLink υ) size).exchange config command
        payload = (.ok got, line'') ∧ (line''.reply got).raw = bytes) ∧
      ((Reply.mk bytes).verify = .ok () →
        got = 18 + Frame.announcedLength (Hex.leadingWord ((bytes.drop 9).take 4)) ∧
          Frame.IsFrame bytes ∧ Frame.EndsOnce bytes)) ∧
    (∀ minimumInfo reply, config.strict = true →
      (line.request config command payload minimumInfo).1 = .ok reply →
        Frame.IsFrame reply.raw ∧ Frame.EndsOnce reply.raw) ∧
    (∀ got line', config.strict = true → VendorInfo.minimumLength ≤ got →
      Driver.identifyOnce config line = (.ok got, line') →
        Frame.IsFrame (line'.reply got).raw ∧ Frame.EndsOnce (line'.reply got).raw) ∧
    ∀ frame tail, Frame.IsFrame frame → (Reply.mk (frame ++ tail)).verify = .ok () := by
  have passes {command : Command} {payload : Bytes} {got : Nat}
      {line' : Line (SerialLink υ) size}
      (exchanged : line.exchange config command payload = (.ok got, line'))
      (intact : (line'.reply got).verify = .ok ()) :
      Frame.IsFrame (line'.reply got).raw ∧ Frame.EndsOnce (line'.reply got).raw :=
    Frame.isFrame_of_verify intact (reply_ends exchanged)
  refine ⟨fun got line' exchanged => ?_, fun minimumInfo reply strict accepted => ?_,
    fun got line' strict long identified => ?_, fun frame tail whole => ?_⟩
  · have alike (buffer : ReceiveBuffer size) := exchange_alike (SerialLink.fills υ size) config
      line.link line.buffer buffer command payload
    have length : (line'.reply got).raw.length = got := by
      have within := ((alike line.buffer).within got (congrArg Prod.fst exchanged)).2
      rw [reply, ReceiveBuffer.length_received, Nat.min_eq_left within]
    refine ⟨length, fun buffer => ?_, fun intact => ?_⟩
    · have same := (alike buffer).reply_eq got (congrArg Prod.fst exchanged)
      have outcome := (alike buffer).outcome_eq
      rw [exchanged] at same outcome
      refine ⟨(exchange config command payload ⟨line.link, buffer⟩).2,
        Prod.ext outcome.symm rfl, congrArg Reply.raw same.symm⟩
    · obtain ⟨whole, ends⟩ := passes exchanged intact
      exact ⟨length.symm.trans whole.2, whole, ends⟩
  · obtain ⟨got, line', exchanged, rfl, accepted⟩ := request_eq_ok_iff.1 accepted
    exact passes exchanged (accepted.intact strict)
  · obtain ⟨exchanged, intact⟩ := Driver.exchange_of_identifyOnce identified
    exact passes exchanged (intact strict long)
  · obtain ⟨header, info, length_header, length_info, rfl⟩ := Frame.isFrame_iff.1 whole
    exact (⟨header, info, tail, length_header, length_info⟩ : Frame.IntactFrame).verify_eq

/-- Of two acknowledgements in one piece only the first is the reply. -/
theorem reply_is_one_frame_of_two :
    let acknowledgement := SimulatedUps.reply 0x00 []
    let line : Line (SerialLink ScriptedUart) standardBufferSize :=
      fresh ⟨.answering [acknowledgement ++ acknowledgement]⟩ _
    let exchanged := line.exchange .standard .readAddress []
    exchanged.1 = .ok 18 ∧ (exchanged.2.reply 18).raw = acknowledgement ∧
      Frame.EndsOnce (exchanged.2.reply 18).raw := by
  intro acknowledgement line exchanged
  have outcome : exchanged.1 = .ok 18 := by decide +kernel
  have first : (exchanged.2.reply 18).raw = acknowledgement := by decide +kernel
  obtain ⟨single, -⟩ := reply_is_one_frame line .standard .readAddress []
  obtain ⟨-, -, passes⟩ := single 18 exchanged.2 (Prod.ext outcome rfl)
  have intact : (Reply.mk (exchanged.2.reply 18).raw).verify = .ok () := by
    rw [first]
    decide +kernel
  exact ⟨outcome, first, (passes intact).2.2⟩

end Line

end UpsTelemetry
