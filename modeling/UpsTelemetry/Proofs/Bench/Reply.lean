import UpsTelemetry.Proofs.Bench.Placement
import UpsTelemetry.Proofs.Bench.SimulatedUps
import UpsTelemetry.Proofs.Driver.Exchange
import UpsTelemetry.Proofs.Frame.Markers
import UpsTelemetry.Proofs.Telemetry.Fields
import UpsTelemetry.Proofs.Text.Hex

/-!
# Replies of a simulated UPS

What a simulated UPS is given as a reply is a whole frame around an INFO. Read back, it is intact
(`verify_reply`), has the return code it was given (`returnCode_reply`) and the fields that are in
the INFO (`byte_reply`, `word_reply`). An INFO of digits has no end marker in it, so a serial link
receives all of it if there is room (`taken_reply`), and the reply is accepted if no more is asked
for than there is (`accepts_reply`).
-/

namespace UpsTelemetry.SimulatedUps

variable {code : UInt8} {info : Bytes} {size : Nat}

/-! ## The frame -/

/-- A reply has eighteen bytes more than its INFO. -/
theorem length_reply (code : UInt8) (info : Bytes) :
    (reply code info).length = 18 + info.length := by
  unfold reply
  rw [Frame.length_sealed, show (replyHeader code).length = 8 from rfl]
  omega

/-- The reply is an intact frame, if its length can be told. -/
theorem verify_reply (code : UInt8) (short : info.length ≤ 0x0FFF) :
    (Reply.mk (reply code info)).verify = .ok () :=
  (Frame.isFrame_iff.2 ⟨replyHeader code, info, rfl, short, rfl⟩).1

/-- The return code of a reply is read as it was given. -/
theorem returnCode_reply (code : UInt8) (info : Bytes) :
    (Reply.mk (reply code info)).returnCode = .ok code := by
  have text : Reply.CodeText ⟨reply code info⟩ (Hex.digit (code >>> 4))
      (Hex.digit (code &&& 0x0F)) := ⟨rfl, rfl⟩
  rw [text.returnCode_eq]
  exact congrArg Except.ok (Hex.leadingByte_ofByte code)

/-- A reply is its first thirteen bytes, INFO, and what closes it. -/
theorem reply_eq (code : UInt8) (info : Bytes) :
    reply code info =
      (Frame.startMarker :: (replyHeader code ++ Frame.lengthText info.length.toUInt16)) ++
        (info ++ (Frame.checksumText (Frame.body (replyHeader code) info) ++
          [Frame.endMarker])) := by
  unfold reply Frame.sealed
  simp only [Frame.body, List.cons_append, List.append_assoc]

/-! ## The fields -/

/-- A window of INFO is found behind the header. -/
theorem info_reply {offset width : Nat} (inside : offset + width ≤ info.length) :
    (Reply.mk (reply code info)).info offset width = .ok (window offset width info) := by
  have fits : (Field.mk offset width).Fits ⟨reply code info⟩ := by
    show 13 + offset + width ≤ (reply code info).length
    rw [length_reply]
    omega
  have found : ((reply code info).drop (13 + offset)).take width = window offset width info := by
    have length_front : (Frame.startMarker :: (replyHeader code ++
        Frame.lengthText info.length.toUInt16)).length = 13 := rfl
    rw [reply_eq, ← List.drop_drop, List.drop_left' length_front,
      List.drop_append_of_le_length (by omega),
      List.take_append_of_le_length (by rw [List.length_drop]; omega)]
    rfl
  rw [Reply.info_of_fits fits]
  exact congrArg Except.ok found

/-- A byte that is written into INFO is read back. -/
theorem byte_reply {offset : Nat} {value : UInt8} (inside : offset + 2 ≤ info.length)
    (written : window offset 2 info = Hex.ofByte value) :
    (Reply.mk (reply code info)).byte offset = .ok value := by
  unfold Reply.byte
  rw [info_reply inside, written]
  exact congrArg Except.ok (Hex.leadingByte_ofByte value)

/-- A word that is written into INFO is read back. -/
theorem word_reply {offset : Nat} {value : UInt16} (inside : offset + 4 ≤ info.length)
    (written : window offset 4 info = Hex.ofWord value) :
    (Reply.mk (reply code info)).word offset = .ok value := by
  unfold Reply.word
  rw [info_reply inside, written]
  exact congrArg Except.ok (Hex.leadingWord_ofWord value)

/-! ## Over a serial link -/

/-- The header of a reply is digits. -/
theorem isDigit_replyHeader (code : UInt8) :
    ∀ char ∈ replyHeader code, Hex.isDigit char = true := by
  have before : ∀ char ∈ ([0x32, 0x31, 0x30, 0x31, 0x32, 0x41] : Bytes),
      Hex.isDigit char = true := List.all_eq_true.1 (by decide)
  intro char mem
  rcases List.mem_append.1 mem with fixed | coded
  · exact before char fixed
  · exact Hex.isDigit_ofByte code char coded

/-- With digits only in INFO, the end marker ends the reply and stands nowhere else in it. -/
theorem upToEnd_reply (code : UInt8) (digits : ∀ char ∈ info, Hex.isDigit char = true) :
    upToEnd (reply code info) = reply code info := by
  have absent := Frame.endMarker_not_mem_front (isDigit_replyHeader code) digits
  show upToEnd (Frame.startMarker :: Frame.body _ _ ++ Frame.checksumText _ ++
    [Frame.endMarker]) = _
  rw [upToEnd_append_of_not_mem absent]
  rfl

/-- With room for all of it, the reply is received whole. -/
theorem taken_reply (code : UInt8) (digits : ∀ char ∈ info, Hex.isDigit char = true)
    (fits : 18 + info.length ≤ size) :
    SerialLink.taken (reply code info) size = reply code info := by
  unfold SerialLink.taken
  rw [upToEnd_reply code digits, List.take_of_length_le (by rw [length_reply]; exact fits)]

variable {ups : SimulatedUps} {rest : List Bytes} {config : Config} {command : Command}
  {payload : Bytes} {minimumInfo : Nat}

/-- A reply of digits that reports success is accepted, if a request is sent at all and no more INFO
is asked for than there is. -/
theorem accepts_reply (reads : ups.readFails = false) (writes : ups.writeFails = false)
    (replies : ups.replies = reply 0x00 info :: rest)
    (requested : payload.length + Frame.overhead ≤ Frame.requestCapacity)
    (room : ups.written.length + (payload.length + Frame.overhead) ≤ writtenCapacity)
    (digits : ∀ char ∈ info, Hex.isDigit char = true) (fits : 18 + info.length ≤ size)
    (short : info.length ≤ 0x0FFF) (enough : minimumInfo ≤ info.length) :
    (Line.fresh (⟨ups⟩ : SerialLink SimulatedUps) size).Accepts config command payload minimumInfo
      ⟨reply 0x00 info⟩ := by
  have built : Frame.request? Frame.requestCapacity command .current config.address payload =
      .ok (Frame.sealed (Frame.requestHeader command .current config.address) payload) :=
    Frame.request?_of_fits requested
  have room' : ups.written.length + (Frame.sealed (Frame.requestHeader command .current
      config.address) payload).length ≤ writtenCapacity := by
    rw [Frame.length_sealed, Frame.length_requestHeader]
    unfold Frame.overhead at room
    omega
  obtain ⟨buffer, unread, exchanged, received⟩ := exchange_eq reads writes built room' (.zeros size)
  rw [replies, List.headD_cons, taken_reply 0x00 digits fits] at exchanged received
  have some : (reply 0x00 info).length ≠ 0 := by
    rw [length_reply]
    omega
  rw [if_neg some] at exchanged
  refine ⟨_, _, exchanged, congrArg Reply.mk received.symm, ?_, returnCode_reply 0x00 info,
    fun _ => verify_reply 0x00 short⟩
  rw [length_reply]
  show 13 + minimumInfo ≤ 18 + info.length
  omega

end UpsTelemetry.SimulatedUps
