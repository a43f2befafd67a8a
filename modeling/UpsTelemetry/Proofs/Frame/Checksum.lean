import UpsTelemetry.Frame.Checksum
import UpsTelemetry.Proofs.Text.Hex

/-!
# The two checksums and what they detect

Both checksums of a frame are sums, so both notice a change of any single character they cover.

* LENGTH. `IsLengthText digits n` says that four characters are *the* text of a LENGTH field for an
  INFO of `n` characters. A reader can decide it (`isLengthText_iff`), and two such texts never
  differ in one character only (`IsLengthText.set_unique`), because their nibbles add up to zero
  modulo sixteen.
* CHKSUM. Two bodies have one checksum exactly if their bytes add up to the same number modulo
  65536 (`checksum_eq_iff`), which a single changed byte never leaves alone (`checksum_set_ne`).

The word in CHKSUM is the one that makes up for that sum (`eq_checksum_iff`). `checksum_balances`
says so of bodies of any length, however often their sum passes 65536.
-/

namespace UpsTelemetry.Frame

/-! ## Sums of bytes -/

/-- The sum of the values of some bytes. -/
def byteSum (bytes : Bytes) : Nat :=
  (bytes.map UInt8.toNat).sum

/-- No bytes have the sum zero. -/
@[simp] theorem byteSum_nil : byteSum [] = 0 := rfl

/-- A byte adds its number. -/
@[simp] theorem byteSum_cons (byte : UInt8) (rest : Bytes) :
    byteSum (byte :: rest) = byte.toNat + byteSum rest := by
  simp [byteSum]

/-- Sums of pieces add up. -/
@[simp] theorem byteSum_append (front behind : Bytes) :
    byteSum (front ++ behind) = byteSum front + byteSum behind := by
  simp [byteSum]

/-- Replacing one byte changes the sum by the difference of the two. -/
theorem byteSum_set {bytes : Bytes} {position : Nat} (inside : position < bytes.length)
    (byte : UInt8) :
    byteSum (bytes.set position byte) + bytes[position].toNat = byteSum bytes + byte.toNat := by
  induction bytes generalizing position with
  | nil => simp at inside
  | cons first rest ih =>
    cases position with
    | zero =>
      simp only [List.set_cons_zero, byteSum_cons, List.getElem_cons_zero]
      omega
    | succ position =>
      have tail := ih (by simpa using inside)
      simp only [List.set_cons_succ, byteSum_cons, List.getElem_cons_succ]
      omega

/-! ## The LENGTH field as a number -/

/-- The mask keeps the last twelve bits. -/
theorem toNat_and_maxInfoLength (length : UInt16) :
    (length &&& maxInfoLength).toNat = length.toNat % 4096 := by
  unfold maxInfoLength
  rw [UInt16.toNat_and]
  exact Nat.and_two_pow_sub_one_eq_mod length.toNat 12

/-- The check nibble that belongs to a length. -/
def checkNibble (length : Nat) : Nat :=
  (16 - (length % 16 + length / 16 % 16 + length / 256 % 16) % 16) % 16

/-- The LENGTH field is the low twelve bits of the length under its check nibble. -/
theorem toNat_lengthField (length : UInt16) :
    (lengthField length).toNat =
      length.toNat % 4096 + checkNibble (length.toNat % 4096) * 4096 := by
  have bits := toNat_and_maxInfoLength length
  have nibble : (-nibbleSum (length &&& maxInfoLength) % 16).toNat =
      checkNibble (length.toNat % 4096) := by
    simp only [nibbleSum, checkNibble, UInt16.toNat_mod, UInt16.toNat_neg, UInt16.toNat_add,
      UInt16.toNat_div, bits, UInt16.size]
    simp
    omega
  have small : checkNibble (length.toNat % 4096) < 16 := Nat.mod_lt _ (by decide)
  unfold lengthField
  simp only [UInt16.toNat_add, UInt16.toNat_mul, bits, nibble]
  simp
  omega

/-- A LENGTH field announces the length it was made for, up to twelve bits. -/
theorem announcedLength_lengthField (length : UInt16) :
    announcedLength (lengthField length) = length.toNat % 4096 := by
  unfold announcedLength
  rw [toNat_and_maxInfoLength, toNat_lengthField]
  omega

/-- Only the last twelve bits of a length matter to its field. -/
theorem lengthField_and_maxInfoLength (length : UInt16) :
    lengthField (length &&& maxInfoLength) = lengthField length := by
  apply UInt16.toNat_inj.1
  rw [toNat_lengthField, toNat_lengthField, toNat_and_maxInfoLength, Nat.mod_mod]

/-- A LENGTH field leads back to itself through the length it announces. -/
theorem lengthField_lengthField (length : UInt16) :
    lengthField (lengthField length) = lengthField length := by
  apply UInt16.toNat_inj.1
  have announced : (lengthField length).toNat % 4096 = length.toNat % 4096 := by
    rw [toNat_lengthField]
    omega
  rw [toNat_lengthField, announced, ← toNat_lengthField]

/-- A LENGTH field that was made is valid. -/
theorem lengthFieldValid_lengthField (length : UInt16) :
    lengthFieldValid (lengthField length) = true := by
  unfold lengthFieldValid
  rw [beq_iff_eq, lengthField_and_maxInfoLength, lengthField_lengthField]

/-! ## The LENGTH field as text -/

/-- Whether some characters are the text of a LENGTH field for an INFO of `length` characters. -/
def IsLengthText (digits : Bytes) (length : Nat) : Prop :=
  length ≤ 0x0FFF ∧ digits = lengthText length.toUInt16

/-- A length that can be announced is kept by a word. -/
theorem toNat_toUInt16_of_le {length : Nat} (small : length ≤ 0x0FFF) :
    length.toUInt16.toNat = length := by
  simp
  omega

/-- The length that was written is the one announced. -/
theorem IsLengthText.announced {digits : Bytes} {length : Nat} (h : IsLengthText digits length) :
    announcedLength (Hex.leadingWord digits) = length := by
  obtain ⟨small, rfl⟩ := h
  unfold lengthText
  rw [Hex.leadingWord_ofWord, announcedLength_lengthField, toNat_toUInt16_of_le small]
  omega

/-- The reader's test: the field is valid, and its text is the canonical one. -/
theorem isLengthText_iff {digits : Bytes} {length : Nat} :
    IsLengthText digits length ↔
      (lengthFieldValid (Hex.leadingWord digits) = true ∧
        digits = lengthText (Hex.leadingWord digits)) ∧
      announcedLength (Hex.leadingWord digits) = length := by
  constructor
  · intro h
    refine ⟨?_, h.announced⟩
    obtain ⟨small, rfl⟩ := h
    unfold lengthText
    rw [Hex.leadingWord_ofWord, lengthField_lengthField]
    exact ⟨lengthFieldValid_lengthField _, rfl⟩
  · rintro ⟨⟨_, canonical⟩, rfl⟩
    have word : (announcedLength (Hex.leadingWord digits)).toUInt16 =
        Hex.leadingWord digits &&& maxInfoLength := UInt16.ofNat_toNat
    refine ⟨?_, ?_⟩
    · unfold announcedLength
      rw [toNat_and_maxInfoLength]
      omega
    · rw [word]
      unfold lengthText
      rw [lengthField_and_maxInfoLength]
      exact canonical

/-- The nibbles of a LENGTH field add up to zero modulo sixteen. -/
theorem IsLengthText.exists_nibbles {digits : Bytes} {length : Nat}
    (h : IsLengthText digits length) :
    ∃ nibbles : List UInt8, digits = nibbles.map Hex.digit ∧
      (∀ nibble ∈ nibbles, nibble < 16) ∧ byteSum nibbles % 16 = 0 := by
  obtain ⟨small, rfl⟩ := h
  refine ⟨Hex.nibbles (lengthField length.toUInt16), Hex.ofWord_eq_map_digit _, Hex.nibbles_lt _,
    ?_⟩
  unfold byteSum
  rw [Hex.map_toNat_nibbles, toNat_lengthField, toNat_toUInt16_of_le small,
    Nat.mod_eq_of_lt (by omega : length < 4096)]
  have check : checkNibble length < 16 := Nat.mod_lt _ (by decide)
  have top : (length + checkNibble length * 4096) / 4096 = checkNibble length := by omega
  have second : (length + checkNibble length * 4096) / 256 % 16 = length / 256 % 16 := by omega
  have third : (length + checkNibble length * 4096) / 16 % 16 = length / 16 % 16 := by omega
  have fourth : (length + checkNibble length * 4096) % 16 = length % 16 := by omega
  rw [top, second, third, fourth]
  unfold checkNibble
  simp only [List.sum_cons, List.sum_nil]
  omega

/-- Replacing one character of a LENGTH field by another never gives a LENGTH field. -/
theorem IsLengthText.set_unique {digits : Bytes} {first second position : Nat} {char : UInt8}
    (h : IsLengthText digits first) (inside : position < digits.length)
    (h' : IsLengthText (digits.set position char) second) : char = digits[position] := by
  obtain ⟨old, rfl, oldSmall, oldSum⟩ := h.exists_nibbles
  obtain ⟨new, changed, newSmall, newSum⟩ := h'.exists_nibbles
  have width : old.length = new.length := by simpa using congrArg List.length changed
  have inOld : position < old.length := by simpa using inside
  have inNew : position < new.length := width ▸ inOld
  have written : char = Hex.digit new[position] := by
    have := congrArg (fun chars => chars[position]?) changed
    simpa [inOld, inNew] using this
  -- The new nibbles are the old ones with one replaced, so their sums differ by that one.
  have replaced : old.set position new[position] = new := by
    have small : ∀ nibble ∈ old.set position new[position], nibble < 16 := by
      intro nibble mem
      rcases List.mem_or_eq_of_mem_set mem with mem | rfl
      · exact oldSmall nibble mem
      · exact newSmall _ (List.getElem_mem inNew)
    calc old.set position new[position]
        = Hex.leadingDigits ((old.set position new[position]).map Hex.digit) :=
          (Hex.leadingDigits_map_digit small).symm
      _ = Hex.leadingDigits (new.map Hex.digit) := by rw [List.map_set, ← written, changed]
      _ = new := Hex.leadingDigits_map_digit newSmall
  have sums := byteSum_set inOld new[position]
  rw [replaced] at sums
  have equal : old[position] = new[position] := by
    have oldLt := oldSmall _ (List.getElem_mem inOld)
    have newLt := newSmall _ (List.getElem_mem inNew)
    apply UInt8.toNat_inj.1
    rw [UInt8.lt_iff_toNat_lt, show (16 : UInt8).toNat = 16 from rfl] at oldLt newLt
    omega
  rw [written, List.getElem_map, equal]

/-! ## The CHKSUM field -/

/-- Adding bytes up in a word is adding them up modulo 65536. -/
theorem toNat_foldl_add (bytes : Bytes) (start : UInt16) :
    (bytes.foldl (fun sum byte => sum + byte.toUInt16) start).toNat =
      (start.toNat + byteSum bytes) % 65536 := by
  induction bytes generalizing start with
  | nil =>
    have := start.toNat_lt
    simp only [List.foldl_nil, byteSum_nil]
    omega
  | cons byte rest ih =>
    rw [List.foldl_cons, ih, UInt16.toNat_add, UInt8.toNat_toUInt16, byteSum_cons]
    omega

/-- The checksum is what the sum lacks of a multiple of 65536. -/
theorem toNat_checksum (body : Bytes) :
    (checksum body).toNat = (65536 - byteSum body % 65536) % 65536 := by
  unfold checksum
  rw [UInt16.toNat_neg, toNat_foldl_add]
  simp [UInt16.size]

/-- The checksum is the one word that brings the sum of the bytes to zero modulo 65536. -/
theorem eq_checksum_iff {word : UInt16} {body : Bytes} :
    word = checksum body ↔ (byteSum body + word.toNat) % 65536 = 0 := by
  have lt := word.toNat_lt
  rw [← UInt16.toNat_inj, toNat_checksum]
  omega

/-- The checksum of two pieces is the sum of their checksums. -/
theorem checksum_append (front behind : Bytes) :
    checksum (front ++ behind) = checksum front + checksum behind := by
  symm
  apply eq_checksum_iff.2
  have first := eq_checksum_iff.1 (Eq.refl (checksum front))
  have second := eq_checksum_iff.1 (Eq.refl (checksum behind))
  rw [byteSum_append, UInt16.toNat_add]
  omega

/-- Checksums tell sums apart modulo 65536, and nothing else. -/
theorem checksum_eq_iff {first second : Bytes} :
    checksum first = checksum second ↔ byteSum first % 65536 = byteSum second % 65536 := by
  rw [← UInt16.toNat_inj, toNat_checksum, toNat_checksum]
  omega

/-- A single changed byte changes the checksum. -/
theorem checksum_set_ne {body : Bytes} {position : Nat} (inside : position < body.length)
    {byte : UInt8} (changed : byte ≠ body[position]) :
    checksum (body.set position byte) ≠ checksum body := by
  intro same
  have sums := byteSum_set inside byte
  have congruent := checksum_eq_iff.1 same
  have new := byte.toNat_lt
  have old := body[position].toNat_lt
  apply changed
  apply UInt8.toNat_inj.1
  omega

/-- The text of a checksum tells checksums apart. -/
theorem checksumText_inj {first second : Bytes} (h : checksumText first = checksumText second) :
    checksum first = checksum second :=
  Hex.ofWord_inj h

/-- The text of a checksum is read as the checksum. -/
theorem toNat_leadingValue_checksumText (body : Bytes) :
    (Hex.leadingValue (checksumText body)).toNat = (checksum body).toNat := by
  have fits : (checksumText body).length ≤ Hex.maxWidth := by
    rw [length_checksumText]
    decide
  rw [Hex.toNat_leadingValue fits, checksumText, Hex.leadingDigits_ofWord, Hex.positional_nibbles]

/-- **The checksum makes up for the sum of the bytes**, however often that sum passes 65536: the two
together are zero modulo 65536, and the text of the checksum is read as the checksum. The checksums
of two pieces add up to that of the whole. Bytes may be replaced by others without the checksum
being another just if the sums of both are congruent modulo 65536. So the text of the checksum tells
any change by which the sum becomes another, and by less than 65536. -/
theorem checksum_balances (body : Bytes) :
    (byteSum body + (checksum body).toNat) % 65536 = 0 ∧
      (Hex.leadingValue (checksumText body)).toNat = (checksum body).toNat ∧
      (∀ behind, checksum (body ++ behind) = checksum body + checksum behind) ∧
      (∀ other, checksum other = checksum body ↔
        byteSum other % 65536 = byteSum body % 65536) ∧
      ∀ other, byteSum other ≠ byteSum body →
        ((byteSum other : Int) - byteSum body).natAbs < 65536 →
          checksumText other ≠ checksumText body := by
  refine ⟨eq_checksum_iff.1 rfl, toNat_leadingValue_checksumText body, checksum_append body,
    fun other => checksum_eq_iff, ?_⟩
  intro other differ close same
  have congruent := checksum_eq_iff.1 (checksumText_inj same)
  omega

/-- Six hundred bytes, whose sum has passed 65536, and one of them replaced by its neighbour. -/
theorem checksum_balances_of_long :
    let body : Bytes := List.replicate 600 0x80
    let other : Bytes := List.replicate 599 0x80 ++ [0x81]
    (76800 + (checksum body).toNat) % 65536 = 0 ∧ byteSum other ≠ byteSum body ∧
      ((byteSum other : Int) - byteSum body).natAbs < 65536 ∧
      checksumText other ≠ checksumText body := by
  intro body other
  have sum_body : byteSum body = 76800 := by
    rw [byteSum, List.map_replicate, List.sum_replicate_nat]
    rfl
  have sum_other : byteSum other = 76801 := by
    rw [byteSum_append, byteSum, List.map_replicate, List.sum_replicate_nat]
    rfl
  have differ : byteSum other ≠ byteSum body := by omega
  have close : ((byteSum other : Int) - byteSum body).natAbs < 65536 := by
    rw [sum_body, sum_other]
    decide
  obtain ⟨balanced, -, -, -, told⟩ := checksum_balances body
  rw [sum_body] at balanced
  exact ⟨balanced, differ, close, told other differ close⟩

end UpsTelemetry.Frame
