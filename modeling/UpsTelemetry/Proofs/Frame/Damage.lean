import UpsTelemetry.Proofs.Frame.Integrity

/-!
# Damage to a frame is detected

A frame that lost its end, or in which one byte was replaced by another, does not begin with an
intact frame any more, and no first part of it does.

* `IsFrame`: bytes that are one intact frame and nothing else; `isFrame_iff`: those which `sealed`
  writes.
* `Damaged frame bytes`: what one replaced byte, or the loss of the end, makes of a frame.
* `firstFault_set`: a replaced byte is detected, and its position says by which check (`FaultAt`).
* `firstFault_of_cut`: so is a lost end, as too few bytes.
* `Damaged.verify_take_ne_ok`: no part of a damaged frame, from its first byte on, is accepted.

The checksum is a sum, so it sees every change of one byte in what it covers. It is no match for
two.
-/

namespace UpsTelemetry.Frame

/-! ## Whole frames -/

/-- The bytes are one intact frame, and nothing trails it. -/
def IsFrame (bytes : Bytes) : Prop :=
  (Reply.mk bytes).verify = .ok () ∧
    bytes.length =
      overhead + announcedLength (Hex.leadingWord ((bytes.drop lengthAt).take 4))

/-- A frame written around its parts, cut where the reader cuts it. -/
theorem sealed_eq (header info : Bytes) :
    sealed header info = startMarker :: (header ++ lengthText info.length.toUInt16 ++
      (info ++ checksumText (header ++ lengthText info.length.toUInt16 ++ info) ++
        endMarker :: [])) := by
  unfold Frame.sealed body
  simp

/-- An intact frame announces the length of its INFO. -/
theorem announcedLength_of_bytes (frame : IntactFrame) :
    announcedLength (Hex.leadingWord ((frame.bytes.drop lengthAt).take 4)) =
      frame.info.length := by
  have cut : (frame.bytes.drop lengthAt).take 4 = lengthText frame.info.length.toUInt16 := by
    rw [frame.bytes_eq, lengthAt, List.drop_succ_cons, List.append_assoc,
      List.drop_left' frame.length_header, List.take_left' (length_lengthText _)]
  rw [cut, frame.isLengthText.announced]

/-- One intact frame and nothing else is what is written around a header and an INFO. -/
theorem isFrame_iff {bytes : Bytes} :
    IsFrame bytes ↔ ∃ header info, header.length = 8 ∧ info.length ≤ 0x0FFF ∧
      bytes = sealed header info := by
  constructor
  · rintro ⟨accepted, size⟩
    obtain ⟨frame, rfl⟩ := verify_eq_ok_iff.1 accepted
    rw [announcedLength_of_bytes, IntactFrame.bytes, List.length_append, length_sealed,
      frame.length_header, overhead] at size
    have nothing : frame.tail = [] := List.eq_nil_of_length_eq_zero (by omega)
    refine ⟨frame.header, frame.info, frame.length_header, frame.length_info, ?_⟩
    rw [IntactFrame.bytes, nothing, List.append_nil]
  · rintro ⟨header, info, length_header, length_info, rfl⟩
    have same : (⟨header, info, [], length_header, length_info⟩ : IntactFrame).bytes =
        sealed header info := List.append_nil _
    have announced : announcedLength (Hex.leadingWord
        (((sealed header info).drop lengthAt).take 4)) = info.length := by
      rw [← same, announcedLength_of_bytes]
    refine ⟨verify_eq_ok_iff.2 ⟨_, same⟩, ?_⟩
    rw [announced, length_sealed, length_header, overhead]
    omega

/-! ## Extending what was accepted -/

/-- Bytes behind an intact frame do not matter. -/
theorem verify_append {bytes : Bytes} (accepted : (Reply.mk bytes).verify = .ok ())
    (more : Bytes) : (Reply.mk (bytes ++ more)).verify = .ok () := by
  obtain ⟨frame, rfl⟩ := verify_eq_ok_iff.1 accepted
  refine verify_eq_ok_iff.2 ⟨{ frame with tail := frame.tail ++ more }, ?_⟩
  unfold IntactFrame.bytes
  rw [List.append_assoc]

/-! ## A lost end -/

/-- A frame that lost its end has too few bytes: for a header, or for what LENGTH announces. -/
theorem firstFault_of_cut {frame part : Bytes} (whole : IsFrame frame) (cut : part <+: frame)
    (proper : part ≠ frame) :
    FirstFault part
      (.shortRead (if part.length < 13 then 13 else frame.length) part.length) := by
  obtain ⟨header, info, length_header, length_info, rfl⟩ := isFrame_iff.1 whole
  have shorter : part.length < (sealed header info).length := by
    refine Nat.lt_of_le_of_ne cut.length_le fun same => proper (cut.eq_of_length same)
  by_cases begun : part.length < 13
  · rw [if_pos begun]
    exact .short begun
  have announced : IsLengthText (lengthText info.length.toUInt16) info.length :=
    ⟨length_info, rfl⟩
  -- The header and LENGTH are all there, so the loss is behind them.
  obtain ⟨first, header', digits, rest, rfl, length_header', length_digits⟩ :=
    exists_parts (Nat.not_lt.1 begun)
  rw [sealed_eq, List.cons_prefix_cons] at cut
  obtain ⟨rfl, kept, cut⟩ := cut
  rw [List.append_assoc] at cut
  obtain ⟨front, -⟩ := List.append_inj cut (by simp [length_header, length_header', length_digits])
  obtain ⟨rfl, rfl⟩ := List.append_inj front (by rw [length_header, length_header'])
  have short : rest.length < info.length + 5 := by
    rw [length_sealed] at shorter
    simp only [List.length_cons, List.length_append, length_digits] at shorter
    omega
  have size : (startMarker :: (header' ++ lengthText info.length.toUInt16 ++ rest)).length =
      13 + rest.length := by
    simp only [List.length_cons, List.length_append, length_header', length_digits]
    omega
  have total : (sealed header' info).length = 18 + info.length := by
    rw [length_sealed, length_header']
    omega
  rw [size, if_neg (by omega), total]
  exact .truncated length_header' announced short

/-! ## A replaced byte -/

/-- The error that tells of a byte replaced at a position of a frame with `length` bytes. -/
def FaultAt (length position : Nat) : FrameError → Prop
  | .badMarker => position = 0 ∨ position + 1 = length
  | .badLength _ => 9 ≤ position ∧ position < 13
  | .badChecksum _ _ =>
    (1 ≤ position ∧ position < 9) ∨ (13 ≤ position ∧ position + 1 < length)
  | _ => False

/-- A byte replaced in two parts is replaced in the first, or in the second. -/
theorem set_append_cases {first second : Bytes} {position : Nat} {byte : UInt8}
    (changed : (first ++ second)[position]? ≠ some byte) :
    (position < first.length ∧ first[position]? ≠ some byte ∧
        (first ++ second).set position byte = first.set position byte ++ second) ∨
      (first.length ≤ position ∧ second[position - first.length]? ≠ some byte ∧
        (first ++ second).set position byte =
          first ++ second.set (position - first.length) byte) := by
  rcases Nat.lt_or_ge position first.length with inFirst | behind
  · rw [List.getElem?_append_left inFirst] at changed
    exact .inl ⟨inFirst, changed, List.set_append_left _ _ inFirst⟩
  · rw [List.getElem?_append_right behind] at changed
    exact .inr ⟨behind, changed, List.set_append_right _ _ behind⟩

section replaced

variable {header digits info tail : Bytes} {position : Nat} {byte last : UInt8}

/-- A byte replaced in LENGTH is found by the check nibble. -/
theorem firstFault_set_length {length : Nat} (rest : Bytes) (length_header : header.length = 8)
    (announced : IsLengthText digits length) (inside : position < digits.length)
    (changed : digits[position]? ≠ some byte) :
    ∃ field, FirstFault (startMarker :: (header ++ digits.set position byte ++ rest))
      (.badLength field) := by
  have length_digits : (digits.set position byte).length = 4 := by
    rw [List.length_set, announced.length_eq]
  refine ⟨_, .length length_header length_digits (fun length' wrong => ?_)
    (Hex.toNat_leadingWord (by omega))⟩
  rw [List.getElem?_eq_getElem inside, ← announced.set_unique inside wrong] at changed
  exact changed rfl

/-- A replaced byte among those that CHKSUM covers changes it. -/
theorem checksumText_set_ne {covered : Bytes} (inside : position < covered.length)
    (changed : covered[position]? ≠ some byte) :
    checksumText covered ≠ checksumText (covered.set position byte) := by
  intro same
  refine checksum_set_ne inside (fun unchanged => ?_) (checksumText_inj same).symm
  rw [List.getElem?_eq_getElem inside, ← unchanged] at changed
  exact changed rfl

/-- A byte replaced in the header is found by the checksum. -/
theorem firstFault_set_header (length_header : header.length = 8)
    (announced : IsLengthText digits info.length) (inside : position < header.length)
    (changed : header[position]? ≠ some byte) :
    ∃ value calculated, FirstFault (startMarker :: (header.set position byte ++ digits ++
      (info ++ checksumText (header ++ digits ++ info) ++ last :: tail)))
      (.badChecksum value calculated) := by
  have wrong : checksumText (header ++ digits ++ info) ≠
      checksumText (header.set position byte ++ digits ++ info) := by
    rw [List.append_assoc, List.append_assoc, ← List.set_append_left _ _ inside]
    refine checksumText_set_ne (by rw [List.length_append]; omega) ?_
    rwa [List.getElem?_append_left inside]
  exact ⟨_, _, .checksum (by rwa [List.length_set]) announced (length_checksumText _) wrong
    (Hex.toNat_leadingWord (by simp))⟩

/-- A byte replaced in INFO is found by the checksum. -/
theorem firstFault_set_info (length_header : header.length = 8)
    (announced : IsLengthText digits info.length) (inside : position < info.length)
    (changed : info[position]? ≠ some byte) :
    ∃ value calculated, FirstFault (startMarker :: (header ++ digits ++
      (info.set position byte ++ checksumText (header ++ digits ++ info) ++ last :: tail)))
      (.badChecksum value calculated) := by
  have wrong : checksumText (header ++ digits ++ info) ≠
      checksumText (header ++ digits ++ info.set position byte) := by
    have moved : header ++ digits ++ info.set position byte =
        (header ++ digits ++ info).set ((header ++ digits).length + position) byte := by
      rw [List.set_append_right _ _ (Nat.le_add_right _ _), Nat.add_sub_cancel_left]
    rw [moved]
    refine checksumText_set_ne (by simp only [List.length_append]; omega) ?_
    rwa [List.getElem?_append_right (Nat.le_add_right _ _), Nat.add_sub_cancel_left]
  exact ⟨_, _, .checksum length_header (by rwa [List.length_set]) (length_checksumText _) wrong
    (Hex.toNat_leadingWord (by simp))⟩

/-- A byte replaced in CHKSUM is found by the checksum. -/
theorem firstFault_set_checksum {carried : Bytes} (length_header : header.length = 8)
    (announced : IsLengthText digits info.length)
    (right : carried = checksumText (header ++ digits ++ info))
    (inside : position < carried.length) (changed : carried[position]? ≠ some byte) :
    ∃ value calculated, FirstFault (startMarker :: (header ++ digits ++
      (info ++ carried.set position byte ++ last :: tail))) (.badChecksum value calculated) := by
  have length_carried : (carried.set position byte).length = 4 := by
    rw [List.length_set, right, length_checksumText]
  have wrong : carried.set position byte ≠ checksumText (header ++ digits ++ info) := by
    rw [← right]
    intro same
    rw [← same, List.getElem?_set_self inside] at changed
    exact changed rfl
  exact ⟨_, _, .checksum length_header announced length_carried wrong
    (Hex.toNat_leadingWord (by omega))⟩

end replaced

/-- A replaced byte is detected, and its position says by which check. -/
theorem firstFault_set {frame : Bytes} (whole : IsFrame frame) {position : Nat} {byte : UInt8}
    (inside : position < frame.length) (changed : byte ≠ frame[position]) :
    ∃ fault, FirstFault (frame.set position byte) fault ∧
      FaultAt frame.length position fault := by
  obtain ⟨header, info, length_header, length_info, rfl⟩ := isFrame_iff.1 whole
  have size : (sealed header info).length = info.length + 18 := by
    rw [length_sealed, length_header]
    omega
  have there : (sealed header info)[position]? ≠ some byte := by
    rw [List.getElem?_eq_getElem inside]
    exact fun same => changed (Option.some.inj same).symm
  rw [size] at inside ⊢
  rw [sealed_eq] at there ⊢
  have announced : IsLengthText (lengthText info.length.toUInt16) info.length :=
    ⟨length_info, rfl⟩
  have length_digits := announced.length_eq
  generalize lengthText info.length.toUInt16 = digits at *
  -- One case for each part of the frame, from the first byte on.
  rcases position with _ | position
  · refine ⟨.badMarker, .start ?_ fun same => there ?_, .inl rfl⟩
    · simp only [List.length_cons, List.length_append]
      omega
    · rw [same]
      rfl
  simp only [List.set_cons_succ, List.append_assoc]
  simp only [List.getElem?_cons_succ, List.append_assoc] at there
  rcases set_append_cases there with ⟨inHeader, there, replaced⟩ | ⟨behindHeader, there, replaced⟩
  · obtain ⟨value, calculated, faulty⟩ :=
      firstFault_set_header length_header announced inHeader there
    simp only [List.append_assoc] at faulty
    rw [replaced]
    exact ⟨_, faulty, .inl (by omega)⟩
  rw [replaced]
  rcases set_append_cases there with ⟨inLength, there, replaced⟩ | ⟨behindLength, there, replaced⟩
  · obtain ⟨field, faulty⟩ := firstFault_set_length _ length_header announced inLength there
    rw [List.append_assoc] at faulty
    rw [replaced]
    exact ⟨_, faulty, by omega, by omega⟩
  rw [replaced]
  rcases set_append_cases there with ⟨inInfo, there, replaced⟩ | ⟨behindInfo, there, replaced⟩
  · obtain ⟨value, calculated, faulty⟩ :=
      firstFault_set_info length_header announced inInfo there
    simp only [List.append_assoc] at faulty
    rw [replaced]
    exact ⟨_, faulty, .inr (by omega)⟩
  rw [replaced]
  rcases set_append_cases there with ⟨inChecksum, there, replaced⟩ | ⟨atEnd, there, replaced⟩
  · obtain ⟨value, calculated, faulty⟩ :=
      firstFault_set_checksum length_header announced (by simp) inChecksum there
    rw [length_checksumText] at inChecksum
    simp only [List.append_assoc] at faulty
    rw [replaced]
    exact ⟨_, faulty, .inr (by omega)⟩
  · rw [length_checksumText] at atEnd
    have last : position - header.length - digits.length - info.length - 4 = 0 := by omega
    rw [length_checksumText, last] at there replaced
    have wrong : byte ≠ endMarker := fun same => there (by rw [same]; rfl)
    have faulty := @FirstFault.finish header digits info [] byte length_header announced wrong
    simp only [List.append_assoc] at faulty
    rw [replaced]
    exact ⟨_, faulty, .inr (by omega)⟩

/-! ## Damage -/

/-- What may become of a frame in transit. -/
inductive Damaged (frame : Bytes) : Bytes → Prop
  /-- One byte was replaced by another. -/
  | replaced {position : Nat} {byte : UInt8} (inside : position < frame.length)
      (changed : byte ≠ frame[position]) : Damaged frame (frame.set position byte)
  /-- The end was lost, and maybe everything. -/
  | cut {part : Bytes} (kept : part <+: frame) (proper : part ≠ frame) : Damaged frame part

/-- No part of a damaged frame, from its first byte on, is accepted. -/
theorem Damaged.verify_take_ne_ok {frame bytes : Bytes} (damaged : Damaged frame bytes)
    (whole : IsFrame frame) (count : Nat) : (Reply.mk (bytes.take count)).verify ≠ .ok () := by
  intro accepted
  -- What is accepted would be accepted with the rest behind it, too.
  have all := verify_append accepted (bytes.drop count)
  rw [List.take_append_drop] at all
  cases damaged with
  | replaced inside changed =>
    obtain ⟨fault, faulty, -⟩ := firstFault_set whole inside changed
    rw [faulty.verify_eq] at all
    cases all
  | cut kept proper =>
    rw [(firstFault_of_cut whole kept proper).verify_eq] at all
    cases all

end UpsTelemetry.Frame
