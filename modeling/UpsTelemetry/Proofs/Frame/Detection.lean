import UpsTelemetry.Bench.SimulatedUps
import UpsTelemetry.Proofs.Frame.Damage

/-!
# What a reader reports of a damaged frame

A frame in which one byte was replaced is rejected, and the place of the byte decides with which
error: the markers are compared, LENGTH is checked by its nibbles, and CHKSUM covers all the rest,
its own digits included. A frame that lost its end has too few bytes.

* `FirstFault.field_eq`, `FirstFault.checksum_eq`: the values in an error are those that stand in
  the bytes.
* `replacedError`: the error for a place.
* `damage_is_reported`: the main statement.

INFO may hold anything, also end markers. The reader counts its bytes and never looks for one.
-/

namespace UpsTelemetry.Frame

/-! ## The values in an error -/

/-- The bytes of LENGTH, if they were received. -/
def lengthDigits (raw : Bytes) : Bytes :=
  (raw.drop lengthAt).take 4

/-- Where INFO ends by what LENGTH announces. -/
def announcedEnd (raw : Bytes) : Nat :=
  headerLength + announcedLength (Hex.leadingWord (lengthDigits raw))

/-- The digits of LENGTH are those behind the start marker and eight bytes of header. -/
theorem lengthDigits_eq {header digits : Bytes} (first : UInt8) (rest : Bytes)
    (length_header : header.length = 8) (length_digits : digits.length = 4) :
    lengthDigits (first :: (header ++ digits ++ rest)) = digits := by
  rw [lengthDigits, lengthAt, List.drop_succ_cons, List.append_assoc,
    List.drop_left' length_header, List.take_left' length_digits]

/-- An error about LENGTH has the value of its digits. -/
theorem FirstFault.field_eq {raw : Bytes} {field : UInt16}
    (fault : FirstFault raw (.badLength field)) :
    field = Hex.leadingWord (lengthDigits raw) := by
  cases fault with
  | length length_header length_digits wrong read =>
    rw [lengthDigits_eq _ _ length_header length_digits, ← UInt16.toNat_inj, read,
      Hex.toNat_leadingWord (Nat.le_of_eq length_digits)]

/-- An error about CHKSUM has the value of its digits, and the checksum that would be right. -/
theorem FirstFault.checksum_eq {raw : Bytes} {carried calculated : UInt16}
    (fault : FirstFault raw (.badChecksum carried calculated)) :
    carried = Hex.leadingWord ((raw.drop (announcedEnd raw)).take 4) ∧
      calculated = Frame.checksum ((raw.take (announcedEnd raw)).drop 1) := by
  cases fault with
  | @checksum header digits info text tail last _ length_header announced length_text wrong read =>
    have cut : startMarker :: (header ++ digits ++ (info ++ text ++ last :: tail)) =
        startMarker :: (header ++ digits ++ info) ++ (text ++ last :: tail) := by simp
    have front : (startMarker :: (header ++ digits ++ info)).length =
        headerLength + info.length := by
      simp only [List.length_cons, List.length_append, length_header, announced.length_eq,
        headerLength]
      omega
    rw [announcedEnd, lengthDigits_eq _ _ length_header announced.length_eq, announced.announced,
      cut, List.drop_left' front, List.take_left' front, List.take_left' length_text]
    refine ⟨?_, rfl⟩
    rw [← UInt16.toNat_inj, read, Hex.toNat_leadingWord (Nat.le_of_eq length_text)]

/-! ## The place of the damage -/

/-- The error that tells of a byte replaced at a position, from the bytes that this left. -/
def replacedError (damaged : Bytes) (position : Nat) : FrameError :=
  if position = 0 ∨ position + 1 = damaged.length then .badMarker
  else if 9 ≤ position ∧ position < 13 then
    .badLength (Hex.leadingWord ((damaged.drop 9).take 4))
  else
    .badChecksum (Hex.leadingWord ((damaged.drop (damaged.length - 5)).take 4))
      (checksum ((damaged.take (damaged.length - 5)).drop 1))

/-- A byte outside LENGTH may be replaced without LENGTH being another. -/
theorem lengthDigits_set {raw : Bytes} {position : Nat} (outside : position < 9 ∨ 13 ≤ position)
    (byte : UInt8) : lengthDigits (raw.set position byte) = lengthDigits raw := by
  unfold lengthDigits
  rw [List.drop_set]
  split
  · rfl
  · next behind =>
    rw [lengthAt] at behind ⊢
    rw [List.take_set, List.set_eq_of_length_le]
    rw [List.length_take]
    omega

/-- INFO still ends in front of the last five bytes. -/
theorem announcedEnd_set {frame : Bytes} (whole : IsFrame frame) {position : Nat}
    (outside : position < 9 ∨ 13 ≤ position) (byte : UInt8) :
    announcedEnd (frame.set position byte) = frame.length - 5 := by
  have size : frame.length = 18 + announcedLength (Hex.leadingWord (lengthDigits frame)) := whole.2
  rw [announcedEnd, lengthDigits_set outside, headerLength]
  omega

/-- A replaced byte is reported by the error for its place. -/
theorem verify_set {frame : Bytes} (whole : IsFrame frame) {position : Nat} {byte : UInt8}
    (inside : position < frame.length) (changed : byte ≠ frame[position]) :
    (Reply.mk (frame.set position byte)).verify =
      .error (replacedError (frame.set position byte) position) := by
  obtain ⟨fault, faulty, place⟩ := firstFault_set whole inside changed
  rw [faulty.verify_eq, replacedError, List.length_set]
  have long : 18 ≤ frame.length := by
    rw [whole.2, overhead]
    omega
  cases fault with
  | badMarker =>
    have place : position = 0 ∨ position + 1 = frame.length := place
    rw [if_pos place]
  | badLength field =>
    obtain ⟨from9, to13⟩ : 9 ≤ position ∧ position < 13 := place
    rw [if_neg (by omega), if_pos ⟨from9, to13⟩, faulty.field_eq]
    rfl
  | badChecksum carried calculated =>
    have place : (1 ≤ position ∧ position < 9) ∨
      (13 ≤ position ∧ position + 1 < frame.length) := place
    obtain ⟨isCarried, isCalculated⟩ := faulty.checksum_eq
    rw [announcedEnd_set whole (by omega)] at isCarried isCalculated
    rw [if_neg (by omega), if_neg (by omega), isCarried, isCalculated]
  | overflow => exact place.elim
  | shortRead expected got => exact place.elim
  | fieldOutOfRange offset => exact place.elim

/-- **A reader sees every damage to one byte, and every lost end.** If one byte of a frame is
replaced by another, the reader rejects what this leaves with the error for the place of the byte,
whatever the two bytes and the rest of the frame are. If a frame loses its end, it rejects the part
that is left for having too few bytes: less than a header, or less than LENGTH announces, which is
the whole frame. -/
theorem damage_is_reported {frame : Bytes} (whole : IsFrame frame) :
    (∀ position byte, (inside : position < frame.length) → byte ≠ frame[position] →
      (Reply.mk (frame.set position byte)).verify =
        .error (replacedError (frame.set position byte) position)) ∧
    ∀ part, part <+: frame → part ≠ frame →
      (Reply.mk part).verify =
        .error (.shortRead (if part.length < 13 then 13 else frame.length) part.length) :=
  ⟨fun _ _ inside changed => verify_set whole inside changed,
    fun _ cut proper => (firstFault_of_cut whole cut proper).verify_eq⟩

/-- An end marker inside INFO is replaced, the last digit of LENGTH becomes another, the real end
marker is lost. -/
theorem damage_is_reported_of_inner_marker :
    let frame := SimulatedUps.reply 0x00 [endMarker, 0x41]
    IsFrame frame ∧
      (Reply.mk (frame.set 13 0x0E)).verify = .error (.badChecksum 0xFD44 0xFD43) ∧
      (Reply.mk (frame.set 12 0x33)).verify = .error (.badLength 0xE003) ∧
      (Reply.mk (frame.set 19 startMarker)).verify = .error .badMarker ∧
      (Reply.mk (frame.take 14)).verify = .error (.shortRead 20 14) := by
  intro frame
  have whole : IsFrame frame := isFrame_iff.2 ⟨_, _, rfl, by decide, rfl⟩
  obtain ⟨replaced, cut⟩ := damage_is_reported whole
  refine ⟨whole, ?_, ?_, ?_, ?_⟩
  · rw [replaced 13 0x0E (by decide) (by decide)]
    decide +kernel
  · rw [replaced 12 0x33 (by decide) (by decide)]
    decide +kernel
  · rw [replaced 19 startMarker (by decide) (by decide)]
    decide +kernel
  · rw [cut (frame.take 14) (List.take_prefix _ _) (by decide)]
    decide +kernel

end UpsTelemetry.Frame
