import UpsTelemetry.Frame.Reply
import UpsTelemetry.Proofs.Frame.Checksum

/-!
# Which bytes begin with an intact frame

`Reply.verify` checks received bytes one condition at a time. Here its verdict is compared with a
grammar that says nothing of reading.

* `IntactFrame`: a frame with all its parts, and the bytes that trail it. Its parts can be told
  from its bytes (`IntactFrame.bytes_injective`).
* `FirstFault raw fault`: the bytes do not begin with an intact frame, and `fault` is the first
  thing wrong with them. Each constructor spells out the bytes it is about: the parts that earlier
  checks found right, the part at fault, and what follows. So each check reads only parts that the
  bytes have.
* `verify_accepts_exactly_intact_frames`: the reader accepts the one and reports the other.

The grammar is complete (`intact_or_firstFault`), so it is enough to evaluate the reader once on
each of its forms.
-/

namespace UpsTelemetry.Frame

/-! ## The grammar -/

/-- A frame with its parts, followed by any bytes. -/
@[ext] structure IntactFrame where
  /-- VER, ADR and CID. -/
  header : Bytes
  /-- The contents. -/
  info : Bytes
  /-- The bytes that trail the frame. -/
  tail : Bytes
  /-- The header has its eight characters. -/
  length_header : header.length = 8
  /-- A LENGTH field can announce the contents. -/
  length_info : info.length ≤ 0x0FFF

/-- The bytes of a frame and of what trails it. -/
def IntactFrame.bytes (frame : IntactFrame) : Bytes :=
  sealed frame.header frame.info ++ frame.tail

/-- The first thing that is wrong with bytes which do not begin with an intact frame. -/
inductive FirstFault : Bytes → FrameError → Prop
  /-- The bytes end before LENGTH does. -/
  | short {raw : Bytes} (cut : raw.length < 13) : FirstFault raw (.shortRead 13 raw.length)
  /-- There is no start marker. -/
  | start {first : UInt8} {rest : Bytes} (whole : 13 ≤ (first :: rest).length)
      (wrong : first ≠ startMarker) : FirstFault (first :: rest) .badMarker
  /-- LENGTH is not the text of a length. The error has the value of its leading digits. -/
  | length {header digits rest : Bytes} {value : UInt16} (length_header : header.length = 8)
      (length_digits : digits.length = 4) (wrong : ∀ length, ¬ IsLengthText digits length)
      (read : value.toNat = Hex.positional (Hex.leadingDigits digits)) :
      FirstFault (startMarker :: (header ++ digits ++ rest)) (.badLength value)
  /-- The bytes end before the frame does. -/
  | truncated {header digits rest : Bytes} {length : Nat} (length_header : header.length = 8)
      (announced : IsLengthText digits length) (cut : rest.length < length + 5) :
      FirstFault (startMarker :: (header ++ digits ++ rest))
        (.shortRead (18 + length) (13 + rest.length))
  /-- CHKSUM is not the text of the checksum. The error has the value of its leading digits. -/
  | checksum {header digits info carried tail : Bytes} {last : UInt8} {value : UInt16}
      (length_header : header.length = 8) (announced : IsLengthText digits info.length)
      (length_carried : carried.length = 4)
      (wrong : carried ≠ checksumText (header ++ digits ++ info))
      (read : value.toNat = Hex.positional (Hex.leadingDigits carried)) :
      FirstFault (startMarker :: (header ++ digits ++ (info ++ carried ++ last :: tail)))
        (.badChecksum value (Frame.checksum (header ++ digits ++ info)))
  /-- There is no end marker. -/
  | finish {header digits info tail : Bytes} {last : UInt8} (length_header : header.length = 8)
      (announced : IsLengthText digits info.length) (wrong : last ≠ endMarker) :
      FirstFault (startMarker :: (header ++ digits ++
        (info ++ checksumText (header ++ digits ++ info) ++ last :: tail))) .badMarker

/-- A LENGTH field has four characters. -/
theorem IsLengthText.length_eq {digits : Bytes} {length : Nat} (h : IsLengthText digits length) :
    digits.length = 4 := by
  rw [h.2]
  rfl

/-- It announces one length only. -/
theorem IsLengthText.unique {digits : Bytes} {first second : Nat} (h : IsLengthText digits first)
    (h' : IsLengthText digits second) : first = second := by
  rw [← h.announced, h'.announced]

/-- The LENGTH of an intact frame announces the length of its INFO. -/
theorem IntactFrame.isLengthText (frame : IntactFrame) :
    IsLengthText (lengthText frame.info.length.toUInt16) frame.info.length :=
  ⟨frame.length_info, rfl⟩

/-- The bytes of an intact frame, cut where the reader cuts them. -/
theorem IntactFrame.bytes_eq (frame : IntactFrame) :
    frame.bytes = startMarker :: (frame.header ++ lengthText frame.info.length.toUInt16 ++
      (frame.info ++ checksumText (body frame.header frame.info) ++ endMarker :: frame.tail)) := by
  unfold bytes Frame.sealed body
  simp

/-- The parts of an intact frame can be told from its bytes. -/
theorem IntactFrame.bytes_injective {first second : IntactFrame}
    (h : first.bytes = second.bytes) : first = second := by
  rw [first.bytes_eq, second.bytes_eq, List.cons.injEq] at h
  have length_header : first.header.length = second.header.length := by
    rw [first.length_header, second.length_header]
  obtain ⟨front, contents⟩ := List.append_inj h.2 (by simp [length_header])
  obtain ⟨header, digits⟩ := List.append_inj front length_header
  -- LENGTH comes before INFO, so the two have as many characters before they are compared.
  have length_info : first.info.length = second.info.length :=
    first.isLengthText.unique (digits ▸ second.isLengthText)
  obtain ⟨covered, rest⟩ := List.append_inj contents (by simp [length_info])
  obtain ⟨info, -⟩ := List.append_inj covered length_info
  exact IntactFrame.ext header info (List.cons.inj rest).2

/-! ## Cutting bytes -/

/-- Enough bytes for a header can be cut into its parts. -/
theorem exists_parts {raw : Bytes} (whole : 13 ≤ raw.length) :
    ∃ first header digits rest, raw = first :: (header ++ digits ++ rest) ∧
      header.length = 8 ∧ digits.length = 4 := by
  cases raw with
  | nil => simp at whole
  | cons first rest =>
    rw [List.length_cons] at whole
    refine ⟨first, rest.take 8, (rest.drop 8).take 4, (rest.drop 8).drop 4, ?_, ?_, ?_⟩
    · rw [List.append_assoc, List.take_append_drop, List.take_append_drop]
    · rw [List.length_take]; omega
    · rw [List.length_take, List.length_drop]; omega

/-- Enough bytes for INFO and what follows it can be cut into their parts. -/
theorem exists_contents {rest : Bytes} {length : Nat} (whole : length + 5 ≤ rest.length) :
    ∃ info carried last tail, rest = info ++ carried ++ last :: tail ∧
      info.length = length ∧ carried.length = 4 := by
  have left : ((rest.drop length).drop 4).length = rest.length - length - 4 := by
    rw [List.length_drop, List.length_drop]
  cases behind : (rest.drop length).drop 4 with
  | nil =>
    rw [behind, List.length_nil] at left
    omega
  | cons last tail =>
    refine ⟨rest.take length, (rest.drop length).take 4, last, tail, ?_, ?_, ?_⟩
    · rw [← behind, List.append_assoc, List.take_append_drop, List.take_append_drop]
    · rw [List.length_take]; omega
    · rw [List.length_take, List.length_drop]; omega

/-- Any bytes begin with an intact frame, or something is the first to be wrong with them. -/
theorem intact_or_firstFault (raw : Bytes) :
    (∃ frame : IntactFrame, frame.bytes = raw) ∨ ∃ fault, FirstFault raw fault := by
  by_cases whole : 13 ≤ raw.length
  swap
  · exact .inr ⟨_, .short (by omega)⟩
  obtain ⟨first, header, digits, rest, rfl, length_header, length_digits⟩ := exists_parts whole
  by_cases start : first = startMarker
  swap
  · exact .inr ⟨_, .start whole start⟩
  subst start
  by_cases text : ∃ length, IsLengthText digits length
  swap
  · exact .inr ⟨_, .length length_header length_digits (not_exists.1 text)
      (Hex.toNat_leadingWord (by omega))⟩
  obtain ⟨length, announced⟩ := text
  by_cases long : length + 5 ≤ rest.length
  swap
  · exact .inr ⟨_, .truncated length_header announced (by omega)⟩
  obtain ⟨info, carried, last, tail, rfl, rfl, length_carried⟩ := exists_contents long
  by_cases right : carried = checksumText (header ++ digits ++ info)
  swap
  · exact .inr ⟨_, .checksum length_header announced length_carried right
      (Hex.toNat_leadingWord (by omega))⟩
  subst right
  by_cases finish : last = endMarker
  swap
  · exact .inr ⟨_, .finish length_header announced finish⟩
  subst finish
  obtain ⟨length_info, rfl⟩ := announced
  refine .inl ⟨⟨header, info, tail, length_header, length_info⟩, ?_⟩
  rw [IntactFrame.bytes_eq]
  rfl

/-! ## The reader on each form -/

/-- The checks up to LENGTH. -/
theorem verify_parts {header digits : Bytes} (first : UInt8) (rest : Bytes)
    (length_header : header.length = 8) (length_digits : digits.length = 4) :
    (Reply.mk (first :: (header ++ digits ++ rest))).verify =
      if first ≠ startMarker then .error .badMarker
      else if lengthFieldValid (Hex.leadingWord digits) = false ∨
          digits ≠ lengthText (Hex.leadingWord digits) then
        .error (.badLength (Hex.leadingWord digits))
      else (Reply.mk (first :: (header ++ digits ++ rest))).verifyContents
        (announcedLength (Hex.leadingWord digits)) := by
  have cut : Bytes.slice? (first :: (header ++ digits ++ rest)) lengthAt 4 = some digits := by
    rw [Bytes.slice?_eq_some_iff]
    refine ⟨?_, ?_⟩
    · simp only [lengthAt, List.length_cons, List.length_append]
      omega
    · rw [lengthAt, List.drop_succ_cons, List.append_assoc, List.drop_left' length_header,
        List.take_left' length_digits]
  unfold Reply.verify
  simp only [cut, List.head?_cons, ne_eq, Option.some.injEq]

/-- With a start marker and a LENGTH field, what is announced decides. -/
theorem verify_announced {header digits : Bytes} {length : Nat} (rest : Bytes)
    (length_header : header.length = 8) (announced : IsLengthText digits length) :
    (Reply.mk (startMarker :: (header ++ digits ++ rest))).verify =
      (Reply.mk (startMarker :: (header ++ digits ++ rest))).verifyContents length := by
  obtain ⟨⟨valid, canonical⟩, value⟩ := isLengthText_iff.1 announced
  rw [verify_parts _ _ length_header announced.length_eq, if_neg (by simp), if_neg, value]
  rintro (invalid | other)
  · rw [valid] at invalid
    cases invalid
  · exact other canonical

/-- The checks behind LENGTH, on bytes that are all there. -/
theorem verify_contents {header digits info carried : Bytes} (last : UInt8) (tail : Bytes)
    (length_header : header.length = 8) (announced : IsLengthText digits info.length)
    (length_carried : carried.length = 4) :
    (Reply.mk (startMarker :: (header ++ digits ++ (info ++ carried ++ last :: tail)))).verify =
      if carried ≠ checksumText (header ++ digits ++ info) then
        .error (.badChecksum (Hex.leadingWord carried) (checksum (header ++ digits ++ info)))
      else if last ≠ endMarker then .error .badMarker
      else .ok () := by
  rw [verify_announced _ length_header announced]
  -- The reader cuts twice: behind INFO and behind CHKSUM.
  generalize front_eq : startMarker :: (header ++ digits ++ info) = front
  have length_front : front.length = headerLength + info.length := by
    rw [← front_eq]
    simp only [List.length_cons, List.length_append, headerLength, announced.length_eq]
    omega
  have raw_eq : startMarker :: (header ++ digits ++ (info ++ carried ++ last :: tail)) =
      front ++ (carried ++ last :: tail) := by
    rw [← front_eq]
    simp
  have long : ¬ (front ++ (carried ++ last :: tail)).length <
      headerLength + info.length + trailerLength := by
    simp only [List.length_append, List.length_cons, trailerLength]
    omega
  have finish : (front ++ (carried ++ last :: tail))[headerLength + info.length + 4]? =
      some last := by
    rw [List.getElem?_append_right (by omega), length_front, Nat.add_sub_cancel_left,
      List.getElem?_append_right (by omega), length_carried]
    rfl
  have covered : front.drop 1 = header ++ digits ++ info := by
    rw [← front_eq]
    rfl
  unfold Reply.verifyContents
  simp only [raw_eq, if_neg long, List.take_left' length_front, List.drop_left' length_front,
    List.take_left' length_carried, finish, covered, ne_eq, Option.some.injEq]

/-- The reader accepts an intact frame, whatever trails it. -/
theorem IntactFrame.verify_eq (frame : IntactFrame) :
    (Reply.mk frame.bytes).verify = .ok () := by
  have covered : body frame.header frame.info =
      frame.header ++ lengthText frame.info.length.toUInt16 ++ frame.info := rfl
  rw [frame.bytes_eq, covered,
    verify_contents _ _ frame.length_header frame.isLengthText (length_checksumText _),
    if_neg (by simp), if_neg (by simp)]

/-- The reader reports the first fault. -/
theorem FirstFault.verify_eq {raw : Bytes} {fault : FrameError} (h : FirstFault raw fault) :
    (Reply.mk raw).verify = .error fault := by
  cases h with
  | short cut =>
    have missing : raw.slice? lengthAt 4 = none := Bytes.slice?_eq_none_iff.2 cut
    unfold Reply.verify
    simp only [missing, headerLength]
  | start whole wrong =>
    obtain ⟨first, header, digits, rest, parts, length_header, length_digits⟩ :=
      exists_parts whole
    obtain rfl := (List.cons.inj parts).1
    rw [parts, verify_parts _ _ length_header length_digits, if_pos wrong]
  | @length header digits rest value length_header length_digits wrong read =>
    have word : Hex.leadingWord digits = value := by
      apply UInt16.toNat_inj.1
      rw [read, Hex.toNat_leadingWord (by omega)]
    have refused : lengthFieldValid (Hex.leadingWord digits) = false ∨
        digits ≠ lengthText (Hex.leadingWord digits) := by
      by_contra accepted
      rw [not_or, Bool.not_eq_false, not_not] at accepted
      exact wrong _ (isLengthText_iff.2 ⟨accepted, rfl⟩)
    rw [verify_parts _ _ length_header length_digits, if_neg (by simp), if_pos refused, word]
  | @truncated header digits rest length length_header announced cut =>
    have size : (startMarker :: (header ++ digits ++ rest)).length = 13 + rest.length := by
      simp only [List.length_cons, List.length_append, announced.length_eq]
      omega
    have total : headerLength + length + trailerLength = 18 + length := by
      simp only [headerLength, trailerLength]
      omega
    rw [verify_announced _ length_header announced]
    unfold Reply.verifyContents
    simp only [size, total]
    rw [if_pos (by omega)]
  | @checksum header digits info carried tail last value length_header announced length_carried
      wrong read =>
    have word : Hex.leadingWord carried = value := by
      apply UInt16.toNat_inj.1
      rw [read, Hex.toNat_leadingWord (by omega)]
    rw [verify_contents _ _ length_header announced length_carried, if_pos wrong, word]
  | finish length_header announced wrong =>
    rw [verify_contents _ _ length_header announced (length_checksumText _), if_neg (by simp),
      if_pos wrong]

/-! ## The verdict -/

/-- Bytes pass exactly if they are an intact frame with something or nothing behind it. -/
theorem verify_eq_ok_iff {raw : Bytes} :
    (Reply.mk raw).verify = .ok () ↔ ∃ frame : IntactFrame, frame.bytes = raw := by
  constructor
  · intro accepted
    rcases intact_or_firstFault raw with intact | ⟨fault, faulty⟩
    · exact intact
    · rw [faulty.verify_eq] at accepted
      cases accepted
  · rintro ⟨frame, rfl⟩
    exact frame.verify_eq

/-- Bytes that do not pass fail for the first thing that is wrong with them. -/
theorem verify_eq_error_iff {raw : Bytes} {fault : FrameError} :
    (Reply.mk raw).verify = .error fault ↔ FirstFault raw fault := by
  constructor
  · intro failed
    rcases intact_or_firstFault raw with ⟨frame, rfl⟩ | ⟨other, faulty⟩
    · rw [frame.verify_eq] at failed
      cases failed
    · rw [faulty.verify_eq, Except.error.injEq] at failed
      exact failed ▸ faulty
  · exact FirstFault.verify_eq

/-- Bytes that begin with an intact frame have at least a header. -/
theorem headerLength_le_of_verify {raw : Bytes} (accepted : (Reply.mk raw).verify = .ok ()) :
    headerLength ≤ raw.length := by
  by_contra short
  have fault := verify_eq_error_iff.2 (FirstFault.short (Nat.not_le.1 short))
  cases accepted.symm.trans fault

/-- **The reader accepts exactly the bytes that begin with an intact frame**, whose parts are then
unique, and of any others it reports the first fault. -/
theorem verify_accepts_exactly_intact_frames (raw : Bytes) :
    ((Reply.mk raw).verify = .ok () ↔ ∃! frame : IntactFrame, frame.bytes = raw) ∧
      ∀ fault, (Reply.mk raw).verify = .error fault ↔ FirstFault raw fault := by
  refine ⟨⟨fun accepted => ?_, fun intact => ?_⟩, fun fault => verify_eq_error_iff⟩
  · obtain ⟨frame, same⟩ := verify_eq_ok_iff.1 accepted
    refine ⟨frame, same, fun other otherSame => ?_⟩
    exact IntactFrame.bytes_injective (otherSame.trans same.symm)
  · exact verify_eq_ok_iff.2 intact.exists

end UpsTelemetry.Frame
