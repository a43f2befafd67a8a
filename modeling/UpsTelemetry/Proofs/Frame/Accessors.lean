import UpsTelemetry.Proofs.Telemetry.Fields
import UpsTelemetry.Proofs.Telemetry.Guarded
import UpsTelemetry.Proofs.Text.Number

/-!
# Fields at any offset, of any width

A field of INFO is read if all of its characters were received, CHKSUM and end marker counting as
received like the rest, and otherwise the error names its offset (`ReadsExactly`). That holds at any
offset and for any width, also for a field of no characters, which is there up to the very end.

A program counts in 64 bits, and a field may be so far away or so wide that the sum of its
positions is no such number. `Guarded.Positions` reads fields in that way: a sum for the first
character has to be one, or the program stops, and there is no field if the sum for the last is
none.

* `Guarded.Positions.piece?_eq`: no field is taken for another one whose position is the same
  modulo 2 ^ 64.
* `Reply.fields_are_exact`: the main statement.
-/

namespace UpsTelemetry

open UpsTelemetry.Frame (headerLength)

/-! ## What a field holds -/

/-- The characters of a field, as many as were received. -/
def Field.characters (field : Field) (reply : Reply) : Bytes :=
  (reply.raw.drop (headerLength + field.offset)).take field.width

/-- A field never has more characters than its width. -/
theorem Field.length_characters_le (field : Field) (reply : Reply) :
    (field.characters reply).length ≤ field.width :=
  List.length_take_le _ _

/-- As many characters as the field is wide: then all were received. -/
theorem Field.fits_of_length {field : Field} {reply : Reply} (some : 0 < field.width)
    (full : (field.characters reply).length = field.width) : field.Fits reply := by
  rw [characters, List.length_take, List.length_drop] at full
  unfold Fits
  omega

/-- What comes of reading a field: the value of its characters if all of them were received, and if
not, an error that names its offset. -/
structure ReadsExactly {α : Type} (value : Bytes → α) (field : Field) (reply : Reply)
    (outcome : Except FrameError α) : Prop where
  /-- A field that was received is read, and nothing but its characters decides how. -/
  ok_iff : ∀ result, outcome = .ok result ↔
    field.Fits reply ∧ result = value (field.characters reply)
  /-- A field that was not received is missed, and nothing else is wrong. -/
  error_iff : ∀ error, outcome = .error error ↔
    ¬ field.Fits reply ∧ error = .fieldOutOfRange field.offset

/-- A value that is made of a field's characters comes of exactly these. -/
theorem readsExactly_info {α : Type} (value : Bytes → α) (field : Field) (reply : Reply) :
    ReadsExactly value field reply ((reply.info field.offset field.width).map value) := by
  by_cases fits : field.Fits reply
  · rw [Reply.info_of_fits fits]
    constructor
    · intro result
      simp [Except.map, Field.characters, fits, eq_comm]
    · intro error
      simp [Except.map, fits]
  · rw [Reply.info_of_not_fits fits]
    constructor
    · intro result
      simp [Except.map, fits]
    · intro error
      simp [Except.map, fits, eq_comm]

namespace ReadsExactly

variable {α : Type} {value : Bytes → α} {field : Field} {reply : Reply}
  {outcome : Except FrameError α}

/-- What is read is the value of the characters. -/
theorem eq_value (exact : ReadsExactly value field reply outcome) {result : α}
    (came : outcome = .ok result) : result = value (field.characters reply) :=
  ((exact.ok_iff result).1 came).2

/-- Characters that fill the field are read. -/
theorem of_characters (exact : ReadsExactly value field reply outcome) {chars : Bytes}
    (some : 0 < field.width) (full : chars.length = field.width)
    (there : field.characters reply = chars) : outcome = .ok (value chars) := by
  apply (exact.ok_iff _).2
  refine ⟨?_, by rw [there]⟩
  apply Field.fits_of_length some
  rw [there, full]

end ReadsExactly

/-! ## Positions of 64 bits -/

namespace Guarded.Positions

/-- The sum of two numbers of 64 bits, if it is one. The sum that is computed is less than the first
number just if a carry was lost. -/
def sum? (first second : UInt64) : Option UInt64 :=
  let sum := first + second
  if sum < first then none else some sum

/-- The `width` bytes from `start` on, if there is a position behind them and they are there. -/
def piece? (bytes : Bytes) (start width : UInt64) : Option Bytes := do
  let stop ← sum? start width
  window bytes start.toNat stop.toNat

/-- The `width` characters at `offset` into INFO. The offset must leave the field a position. -/
def info (reply : Reply) (offset width : UInt64) : Reader Bytes := do
  let start ← ExceptT.lift (sum? headerLength.toUInt64 offset)
  match piece? reply.raw start width with
  | some field => return field
  | none => throw (.fieldOutOfRange offset.toNat)

/-- The one-byte field at `offset` into INFO. -/
def byte (reply : Reply) (offset : UInt64) : Reader UInt8 :=
  Hex.leadingByte <$> info reply offset 2

/-- The two-byte field at `offset` into INFO. -/
def word (reply : Reply) (offset : UInt64) : Reader UInt16 :=
  Hex.leadingWord <$> info reply offset 4

/-- The text in the `width` characters at `offset` into INFO, at most `room` characters of it. -/
def text (reply : Reply) (offset width : UInt64) (room : Nat) : Reader String :=
  Padded.text room <$> info reply offset width

/-- A sum that fits into 64 bits is the sum of the numbers. -/
theorem sum?_of_lt {first second : UInt64} (small : first.toNat + second.toNat < 2 ^ 64) :
    sum? first second = some (first + second) ∧
      (first + second).toNat = first.toNat + second.toNat := by
  have sum : (first + second).toNat = first.toNat + second.toNat := by
    rw [UInt64.toNat_add, Nat.mod_eq_of_lt small]
  refine ⟨if_neg ?_, sum⟩
  rw [UInt64.lt_iff_toNat_lt]
  omega

/-- A sum that does not fit is refused. -/
theorem sum?_of_le {first second : UInt64} (large : 2 ^ 64 ≤ first.toNat + second.toNat) :
    sum? first second = none := by
  have bound := first.toNat_lt
  have bound' := second.toNat_lt
  apply if_pos
  rw [UInt64.lt_iff_toNat_lt, UInt64.toNat_add]
  omega

/-- A piece of bytes that can be counted is there, or is not, as its positions say without a carry
being lost. -/
theorem piece?_eq {bytes : Bytes} (counted : bytes.length < 2 ^ 64) (start width : UInt64) :
    piece? bytes start width = bytes.slice? start.toNat width.toNat := by
  unfold piece?
  by_cases small : start.toNat + width.toNat < 2 ^ 64
  · obtain ⟨computed, sum⟩ := sum?_of_lt small
    rw [computed, Option.bind_eq_bind, Option.bind_some, sum]
    unfold window Bytes.slice?
    simp only [Nat.le_add_right, true_and, List.drop_take, Nat.add_sub_cancel_left]
  · have missing : bytes.slice? start.toNat width.toNat = none :=
      Bytes.slice?_eq_none_iff.2 (by omega)
    rw [sum?_of_le (Nat.not_lt.1 small), missing]
    rfl

variable {reply : Reply} {position : UInt64}

/-- In positions of 64 bits the same characters are read, as long as the first of them has such a
position. -/
theorem info_comesTo (counted : reply.raw.length < 2 ^ 64)
    (reachable : headerLength + position.toNat < 2 ^ 64) (width : UInt64) :
    ComesTo (info reply position width) (reply.info position.toNat width.toNat) := by
  have small : headerLength.toUInt64.toNat + position.toNat < 2 ^ 64 := reachable
  obtain ⟨computed, sum⟩ := sum?_of_lt small
  have start : (headerLength.toUInt64 + position).toNat = headerLength + position.toNat := sum
  unfold ComesTo info Reply.info
  rw [ExceptT.run_bind, ExceptT.run_lift, computed, Option.map_eq_map, Option.map_some,
    Option.bind_eq_bind, Option.bind_some]
  dsimp only
  rw [piece?_eq counted, start]
  cases reply.raw.slice? (headerLength + position.toNat) width.toNat <;> rfl

/-- So is a byte. -/
theorem byte_comesTo (counted : reply.raw.length < 2 ^ 64)
    (reachable : headerLength + position.toNat < 2 ^ 64) :
    ComesTo (byte reply position) (reply.byte position.toNat) :=
  (info_comesTo counted reachable 2).map Hex.leadingByte

/-- So is a word. -/
theorem word_comesTo (counted : reply.raw.length < 2 ^ 64)
    (reachable : headerLength + position.toNat < 2 ^ 64) :
    ComesTo (word reply position) (reply.word position.toNat) :=
  (info_comesTo counted reachable 4).map Hex.leadingWord

/-- So is a text. -/
theorem text_comesTo (counted : reply.raw.length < 2 ^ 64)
    (reachable : headerLength + position.toNat < 2 ^ 64) (width : UInt64) (room : Nat) :
    ComesTo (text reply position width room) (reply.text position.toNat width.toNat room) :=
  (info_comesTo counted reachable width).map (Padded.text room)

end Guarded.Positions

/-! ## All accessors -/

/-- **The accessors of INFO are exact.** A text, a byte and a word are read just if all of their
characters were received, by those characters alone, and are otherwise missed by their offset.
Characters that are numerals, of either case, are read as the number they stand for, and the digits
of a byte or of a word as that byte or word. In 64 bits all of this is the same: wherever a field
can begin, and whatever its width, no position is out of range or comes out as another one. -/
theorem Reply.fields_are_exact (reply : Reply) (offset width room : Nat) :
    ReadsExactly (Padded.text room) ⟨offset, width⟩ reply (reply.text offset width room) ∧
      ReadsExactly Hex.leadingByte (.byte offset) reply (reply.byte offset) ∧
      ReadsExactly Hex.leadingWord (.word offset) reply (reply.word offset) ∧
      (∀ value, reply.byte offset = .ok value →
        (∀ char ∈ (Field.byte offset).characters reply, Hex.isNumeral char = true) →
          value.toNat = Hex.number ((Field.byte offset).characters reply)) ∧
      (∀ value, reply.word offset = .ok value →
        (∀ char ∈ (Field.word offset).characters reply, Hex.isNumeral char = true) →
          value.toNat = Hex.number ((Field.word offset).characters reply)) ∧
      (∀ value, (Field.byte offset).characters reply = Hex.ofByte value →
        reply.byte offset = .ok value) ∧
      (∀ value, (Field.word offset).characters reply = Hex.ofWord value →
        reply.word offset = .ok value) ∧
      (reply.raw.length < 2 ^ 64 → headerLength + offset < 2 ^ 64 →
        ∀ position size : UInt64, position.toNat = offset → size.toNat = width →
          Guarded.ComesTo (Guarded.Positions.text reply position size room)
              (reply.text offset width room) ∧
            Guarded.ComesTo (Guarded.Positions.byte reply position) (reply.byte offset) ∧
            Guarded.ComesTo (Guarded.Positions.word reply position) (reply.word offset)) := by
  have text :
      ReadsExactly (Padded.text room) ⟨offset, width⟩ reply (reply.text offset width room) :=
    readsExactly_info _ ⟨offset, width⟩ reply
  have byte : ReadsExactly Hex.leadingByte (.byte offset) reply (reply.byte offset) :=
    readsExactly_info _ (.byte offset) reply
  have word : ReadsExactly Hex.leadingWord (.word offset) reply (reply.word offset) :=
    readsExactly_info _ (.word offset) reply
  refine ⟨text, byte, word, ?_, ?_, ?_, ?_, ?_⟩
  · intro value came numerals
    rw [byte.eq_value came]
    exact Hex.toNat_leadingByte_eq_number (Field.length_characters_le _ reply) numerals
  · intro value came numerals
    rw [word.eq_value came]
    exact Hex.toNat_leadingWord_eq_number (Field.length_characters_le _ reply) numerals
  · intro value written
    rw [byte.of_characters (by decide : 0 < 2) rfl written, Hex.leadingByte_ofByte]
  · intro value written
    rw [word.of_characters (by decide : 0 < 4) rfl written, Hex.leadingWord_ofWord]
  · rintro counted reachable position size rfl rfl
    exact ⟨Guarded.Positions.text_comesTo counted reachable size room,
      Guarded.Positions.byte_comesTo counted reachable,
      Guarded.Positions.word_comesTo counted reachable⟩

/-- A word in mixed case behind a header and in front of a single byte: it is read, no byte is found
behind it, and a text as wide as can be said is missed. In upper case its second byte is read back
too. -/
theorem Reply.fields_are_exact_of_short :
    let reply : Reply := ⟨List.replicate 13 0x30 ++ [0x62, 0x45, 0x65, 0x66, 0x0D]⟩
    let upper : Reply := ⟨List.replicate 15 0x30 ++ Hex.ofByte 0xEF ++ [0x0D]⟩
    reply.word 0 = .ok 0xBEEF ∧ (0xBEEF : UInt16).toNat = Hex.number [0x62, 0x45, 0x65, 0x66] ∧
      upper.byte 2 = .ok 0xEF ∧ reply.byte 4 = .error (.fieldOutOfRange 4) ∧
      Guarded.ComesTo (Guarded.Positions.text reply 0 0xFFFFFFFFFFFFFFFF 10)
        (.error (.fieldOutOfRange 0)) := by
  intro reply upper
  obtain ⟨missed, -, -, -, number, -, -, machine⟩ := fields_are_exact reply 0 0xFFFFFFFFFFFFFFFF 10
  obtain ⟨-, behind, -⟩ := fields_are_exact reply 4 2 0
  obtain ⟨-, -, -, -, -, readsBack, -, -⟩ := fields_are_exact upper 2 2 0
  have word : reply.word 0 = .ok 0xBEEF := by decide
  have numerals : ∀ char ∈ (Field.word 0).characters reply, Hex.isNumeral char = true := by
    decide +kernel
  have wide : reply.text 0 0xFFFFFFFFFFFFFFFF 10 = .error (.fieldOutOfRange 0) :=
    (missed.error_iff _).2 ⟨by decide, rfl⟩
  refine ⟨word, number 0xBEEF word numerals, readsBack 0xEF (by decide),
    (behind.error_iff _).2 ⟨by decide, rfl⟩, ?_⟩
  rw [← wide]
  exact (machine (by decide) (by decide) 0 0xFFFFFFFFFFFFFFFF rfl rfl).1

end UpsTelemetry
