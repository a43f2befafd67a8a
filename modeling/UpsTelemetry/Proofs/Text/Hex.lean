import Mathlib.Algebra.Ring.Nat
import Mathlib.Data.List.Induction
import UpsTelemetry.Text.Hex

/-!
# The value of hexadecimal text

`positional` is the number that a list of digits stands for. Both directions of `Text.Hex` are
related to it: a reader takes the positional value of the digits that a field begins with
(`toNat_leadingValue`), and a word is written as its four nibbles, whose positional value is the
word itself (`leadingWord_ofWord`, and `leadingByte_ofByte` for a byte). So a word can be told from
its text (`ofWord_inj`). What is written are digits and nothing else (`isDigit_ofWord`).

The reader works in 64 bits. That it never loses a digit there is the point of
`toNat_foldl_appendDigit`: sixteen digits fit, and no field that is read has more than fifteen.
-/

namespace UpsTelemetry.Hex

/-! ## Digits -/

/-- A property that a table of all 256 bytes shows is one of every byte. -/
@[elab_as_elim] theorem forall_of_table {motive : UInt8 → Prop} (byte : UInt8)
    (table : ∀ n : Fin 256, motive (.ofFin n)) : motive byte :=
  table byte.toFin

/-- What is written as a digit is read as one. -/
theorem digitValue?_digit {value : UInt8} (small : value < 16) :
    digitValue? (digit value) = some value := by
  revert small
  refine forall_of_table value ?_
  decide +kernel

/-- A character is worth less than sixteen if its range lies close enough above its offset. -/
theorem sub_lt_of_range {char low high offset : UInt8} (range : low ≤ char ∧ char ≤ high)
    (above : offset ≤ low) (close : high.toNat < offset.toNat + 16) : char - offset < 16 := by
  have reach : offset ≤ char := UInt8.le_trans above range.1
  have bound : char.toNat ≤ high.toNat := UInt8.le_iff_toNat_le.1 range.2
  rw [UInt8.lt_iff_toNat_lt, UInt8.toNat_sub_of_le _ _ reach]
  change char.toNat - offset.toNat < 16
  omega

/-- A digit is worth less than sixteen. -/
theorem digitValue?_lt {char value : UInt8} (h : digitValue? char = some value) : value < 16 := by
  unfold digitValue? at h
  -- The three ranges of digits, each with its own offset, and everything else.
  split at h
  · next range =>
    obtain rfl := Option.some.inj h
    exact sub_lt_of_range range (by decide) (by decide)
  split at h
  · next range =>
    obtain rfl := Option.some.inj h
    exact sub_lt_of_range range (by decide) (by decide)
  split at h
  · next range =>
    obtain rfl := Option.some.inj h
    exact sub_lt_of_range range (by decide) (by decide)
  · cases h

/-- The only digit that is worth nothing is the zero. -/
theorem digitValue?_eq_zero_iff {char : UInt8} : digitValue? char = some 0 ↔ char = 0x30 := by
  refine forall_of_table char ?_
  decide +kernel

/-- A row of written digits is read to its end. -/
theorem leadingDigits_map_digit {values : List UInt8} (small : ∀ value ∈ values, value < 16) :
    leadingDigits (values.map digit) = values := by
  induction values with
  | nil => rfl
  | cons value rest ih =>
    have first := digitValue?_digit (small value (by simp))
    have others := ih fun value mem => small value (by simp [mem])
    simp only [List.map_cons, leadingDigits, first, others]

/-- Digits are less than sixteen. -/
theorem leadingDigits_lt (field : Bytes) : ∀ value ∈ leadingDigits field, value < 16 := by
  induction field with
  | nil => simp [leadingDigits]
  | cons char rest ih =>
    unfold leadingDigits
    split
    · next value read =>
      intro other mem
      rcases List.mem_cons.1 mem with rfl | mem
      · exact digitValue?_lt read
      · exact ih other mem
    · simp

/-- There are no more digits than characters. -/
theorem length_leadingDigits_le (field : Bytes) : (leadingDigits field).length ≤ field.length := by
  induction field with
  | nil => simp [leadingDigits]
  | cons char rest ih =>
    unfold leadingDigits
    split
    · simp only [List.length_cons]; omega
    · simp

/-! ## Positional value -/

/-- The number that a list of digits stands for, the most significant digit first. -/
def positional (digits : List UInt8) : Nat :=
  digits.foldl (fun value digit => 16 * value + digit.toNat) 0

/-- One more digit behind the others counts once, and the others count sixteen times as much. -/
theorem positional_append (digits : List UInt8) (digit : UInt8) :
    positional (digits ++ [digit]) = 16 * positional digits + digit.toNat := by
  simp [positional]

/-- Digits stand for less than one more digit could begin with. -/
theorem positional_lt {digits : List UInt8} (small : ∀ digit ∈ digits, digit < 16) :
    positional digits < 16 ^ digits.length := by
  induction digits using List.reverseRecOn with
  | nil => decide
  | append_singleton digits digit ih =>
    have last : digit.toNat < 16 := by
      simpa [UInt8.lt_iff_toNat_lt] using small digit (by simp)
    have front := ih fun other mem => small other (by simp [mem])
    rw [positional_append, List.length_append, List.length_singleton, Nat.pow_succ]
    omega

/-- One step of the reader, as long as the accumulator has room for another digit. -/
theorem toNat_appendDigit {value : UInt64} {digit : UInt8} (small : digit < 16)
    (room : value.toNat < 2 ^ 60) :
    ((value <<< 4) ||| digit.toUInt64).toNat = 16 * value.toNat + digit.toNat := by
  have lt : digit.toNat < 2 ^ 4 := by simpa [UInt8.lt_iff_toNat_lt] using small
  have shifted : (value <<< 4).toNat = value.toNat <<< 4 := by
    simp only [UInt64.toNat_shiftLeft, Nat.shiftLeft_eq]
    simp
    omega
  rw [UInt64.toNat_or, shifted, UInt8.toNat_toUInt64, ← Nat.shiftLeft_add_eq_or_of_lt lt,
    Nat.shiftLeft_eq]
  omega

/-- The reader's fold, begun after `before` digits, computes the positional value. -/
theorem toNat_foldl_appendDigit {digits : List UInt8} (small : ∀ digit ∈ digits, digit < 16)
    {value : UInt64} {before : Nat} (bound : value.toNat < 16 ^ before)
    (room : before + digits.length ≤ 16) :
    (digits.foldl (fun (value : UInt64) digit => (value <<< 4) ||| digit.toUInt64) value).toNat =
      digits.foldl (fun value digit => 16 * value + digit.toNat) value.toNat := by
  -- Each digit read moves one from the digits to come to those already in the value.
  induction digits generalizing value before with
  | nil => rfl
  | cons digit rest ih =>
    have head := small digit (by simp)
    have lt : digit.toNat < 16 := by simpa [UInt8.lt_iff_toNat_lt] using head
    rw [List.length_cons] at room
    have fits : value.toNat < 2 ^ 60 :=
      Nat.lt_of_lt_of_le bound (Nat.pow_le_pow_right (by decide) (by omega : before ≤ 15))
    have step := toNat_appendDigit head fits
    have bound' : ((value <<< 4) ||| digit.toUInt64).toNat < 16 ^ (before + 1) := by
      rw [step, Nat.pow_succ]
      omega
    have tail := ih (fun other mem => small other (by simp [mem])) bound' (by omega)
    rw [List.foldl_cons, List.foldl_cons, tail, step]

/-- A field that is not too wide is worth the number its leading digits stand for. -/
theorem toNat_leadingValue {field : Bytes} (fits : field.length ≤ maxWidth) :
    (leadingValue field).toNat = positional (leadingDigits field) := by
  have width := length_leadingDigits_le field
  have room : 0 + (leadingDigits field).length ≤ 16 := by
    unfold maxWidth at fits
    omega
  unfold leadingValue positional
  rw [if_neg (Nat.not_lt.2 fits)]
  exact toNat_foldl_appendDigit (leadingDigits_lt field) (by decide) room

/-- A field is worth less than one more digit could begin with. -/
theorem toNat_leadingValue_lt {field : Bytes} {width : Nat} (fits : field.length ≤ width)
    (readable : width ≤ maxWidth) : (leadingValue field).toNat < 16 ^ width := by
  have digits : (leadingDigits field).length ≤ width :=
    Nat.le_trans (length_leadingDigits_le field) fits
  rw [toNat_leadingValue (Nat.le_trans fits readable)]
  exact Nat.lt_of_lt_of_le (positional_lt (leadingDigits_lt field))
    (Nat.pow_le_pow_right (by decide) digits)

/-- A field of four characters loses nothing when it is read as a word. -/
theorem toNat_leadingWord {field : Bytes} (fits : field.length ≤ 4) :
    (leadingWord field).toNat = positional (leadingDigits field) := by
  have lt : (leadingValue field).toNat < 2 ^ 16 := toNat_leadingValue_lt fits (by decide)
  unfold leadingWord
  rw [UInt64.toNat_toUInt16, Nat.mod_eq_of_lt lt,
    toNat_leadingValue (Nat.le_trans fits (by decide))]

/-- A field of two characters loses nothing when it is read as a byte. -/
theorem toNat_leadingByte {field : Bytes} (fits : field.length ≤ 2) :
    (leadingByte field).toNat = positional (leadingDigits field) := by
  have lt : (leadingValue field).toNat < 2 ^ 8 := toNat_leadingValue_lt fits (by decide)
  unfold leadingByte
  rw [UInt64.toNat_toUInt8, Nat.mod_eq_of_lt lt,
    toNat_leadingValue (Nat.le_trans fits (by decide))]

/-! ## The nibbles of a word -/

/-- The high half of a byte. -/
theorem toNat_highHalf (byte : UInt8) : (byte >>> 4).toNat = byte.toNat / 16 := by
  simp [UInt8.toNat_shiftRight, Nat.shiftRight_eq_div_pow]

/-- The low half of a byte. -/
theorem toNat_lowHalf (byte : UInt8) : (byte &&& 0x0F).toNat = byte.toNat % 16 := by
  rw [UInt8.toNat_and]
  exact Nat.and_two_pow_sub_one_eq_mod byte.toNat 4

/-- The four nibbles of a word, as they are written. -/
def nibbles (word : UInt16) : List UInt8 :=
  [(word >>> 8).toUInt8 >>> 4, (word >>> 8).toUInt8 &&& 0x0F, word.toUInt8 >>> 4,
    word.toUInt8 &&& 0x0F]

/-- A word is written nibble by nibble. -/
theorem ofWord_eq_map_digit (word : UInt16) : ofWord word = (nibbles word).map digit := rfl

/-- The nibbles of a word, as numbers. -/
theorem map_toNat_nibbles (word : UInt16) :
    (nibbles word).map UInt8.toNat =
      [word.toNat / 4096, word.toNat / 256 % 16, word.toNat / 16 % 16, word.toNat % 16] := by
  have lt := word.toNat_lt
  have high : (word >>> 8).toUInt8.toNat = word.toNat / 256 := by
    simp [UInt16.toNat_shiftRight, Nat.shiftRight_eq_div_pow]
    omega
  have low : word.toUInt8.toNat = word.toNat % 256 := by simp
  simp only [nibbles, List.map_cons, List.map_nil, toNat_highHalf, toNat_lowHalf, high, low,
    List.cons.injEq, and_true, true_and]
  omega

/-- Nibbles are less than sixteen. -/
theorem nibbles_lt (word : UInt16) : ∀ nibble ∈ nibbles word, nibble < 16 := by
  intro nibble mem
  have lt := word.toNat_lt
  have mapped := List.mem_map_of_mem (f := UInt8.toNat) mem
  rw [map_toNat_nibbles] at mapped
  simp only [List.mem_cons, List.not_mem_nil, or_false] at mapped
  rw [UInt8.lt_iff_toNat_lt, show (16 : UInt8).toNat = 16 from rfl]
  omega

/-- The digits of a word that is written are its nibbles. -/
theorem leadingDigits_ofWord (word : UInt16) : leadingDigits (ofWord word) = nibbles word := by
  rw [ofWord_eq_map_digit, leadingDigits_map_digit (nibbles_lt word)]

/-- The number of its nibbles is the word. -/
theorem positional_nibbles (word : UInt16) : positional (nibbles word) = word.toNat := by
  have fold : positional (nibbles word) =
      ((nibbles word).map UInt8.toNat).foldl (fun value digit => 16 * value + digit) 0 := by
    rw [List.foldl_map]
    rfl
  rw [fold, map_toNat_nibbles]
  simp only [List.foldl_cons, List.foldl_nil]
  omega

/-- A word is read back from its text. -/
theorem leadingWord_ofWord (word : UInt16) : leadingWord (ofWord word) = word := by
  apply UInt16.toNat_inj.1
  rw [toNat_leadingWord (by simp), leadingDigits_ofWord, positional_nibbles]

/-- Different words have different texts. -/
theorem ofWord_inj {first second : UInt16} (h : ofWord first = ofWord second) : first = second := by
  rw [← leadingWord_ofWord first, h, leadingWord_ofWord]

/-! ## The nibbles of a byte -/

/-- A byte is written half by half. -/
theorem ofByte_eq_map_digit (byte : UInt8) :
    ofByte byte = [byte >>> 4, byte &&& 0x0F].map digit := rfl

/-- The halves of a byte are less than sixteen. -/
theorem halves_lt (byte : UInt8) : ∀ nibble ∈ [byte >>> 4, byte &&& 0x0F], nibble < 16 := by
  have lt := byte.toNat_lt
  intro nibble mem
  rw [UInt8.lt_iff_toNat_lt, show (16 : UInt8).toNat = 16 from rfl]
  simp only [List.mem_cons, List.not_mem_nil, or_false] at mem
  rcases mem with rfl | rfl
  · rw [toNat_highHalf]
    omega
  · rw [toNat_lowHalf]
    omega

/-- A byte is read back from its text. -/
theorem leadingByte_ofByte (byte : UInt8) : leadingByte (ofByte byte) = byte := by
  apply UInt8.toNat_inj.1
  rw [toNat_leadingByte (by simp), ofByte_eq_map_digit, leadingDigits_map_digit (halves_lt byte)]
  simp only [positional, List.foldl_cons, List.foldl_nil, toNat_highHalf, toNat_lowHalf]
  omega

/-! ## Digits only -/

/-- What is written for numbers less than sixteen is digits. -/
theorem isDigit_map_digit {values : List UInt8} (small : ∀ value ∈ values, value < 16) :
    ∀ char ∈ values.map digit, isDigit char = true := by
  intro char mem
  obtain ⟨value, inside, rfl⟩ := List.mem_map.1 mem
  unfold isDigit
  rw [digitValue?_digit (small value inside)]
  rfl

/-- The text of a byte is digits. -/
theorem isDigit_ofByte (byte : UInt8) : ∀ char ∈ ofByte byte, isDigit char = true :=
  isDigit_map_digit (halves_lt byte)

/-- The text of a word is digits. -/
theorem isDigit_ofWord (word : UInt16) : ∀ char ∈ ofWord word, isDigit char = true :=
  isDigit_map_digit (nibbles_lt word)

end UpsTelemetry.Hex
