import Mathlib.Data.List.TakeWhile
import Mathlib.Data.Nat.Digits.Defs
import UpsTelemetry.Proofs.Text.Hex

/-!
# Numbers in base sixteen

What a field is worth, without a reader. A character is a numeral if it is one of the sixteen of
the alphabet, in either case, and is worth its place there. Numerals one after the other stand for a
number in base sixteen, the most significant first (`number`), and a field begins with some
numerals, all of it or none.

* `toNat_leadingValue_eq_number`: a field that is not too wide is worth the number it begins with.
* `shiftIn?`: the step of a reader that gives up where a shift would drop a bit. In a field that is
  not too wide it never has to (`foldlM_shiftIn?`).
* `leadingValue_exact`: the main statement.
-/

namespace UpsTelemetry.Hex

/-! ## Longest beginnings -/

/-- The bytes in front of the first one that is out of place are the same whatever comes behind
it. -/
theorem takeWhile_stopped {inPlace : UInt8 → Bool} (front : Bytes) {stop : UInt8}
    (stops : inPlace stop = false) (behind : Bytes) :
    (front ++ stop :: behind).takeWhile inPlace = front.takeWhile inPlace := by
  have none : (stop :: behind).takeWhile inPlace = [] := by simp [stops]
  rw [List.takeWhile_append, none, List.append_nil]
  split
  · next whole => exact ((List.takeWhile_prefix _).eq_of_length whole).symm
  · rfl

/-! ## Numerals -/

/-- The sixteen numerals, each in the place of its value. -/
def alphabet : List Char :=
  ['0', '1', '2', '3', '4', '5', '6', '7', '8', '9', 'A', 'B', 'C', 'D', 'E', 'F']

/-- The character of a byte, in upper case if it is a letter. -/
def upper (char : UInt8) : Char :=
  (Char.ofNat char.toNat).toUpper

/-- Whether a byte is a numeral, in either case. -/
def isNumeral (char : UInt8) : Bool :=
  alphabet.contains (upper char)

/-- What a numeral is worth. -/
def worth (char : UInt8) : Nat :=
  alphabet.idxOf (upper char)

/-- The number that numerals stand for, the most significant first. -/
def number (chars : Bytes) : Nat :=
  Nat.ofDigits 16 (chars.map worth).reverse

/-- A numeral is worth less than sixteen. -/
theorem worth_lt {char : UInt8} (numeral : isNumeral char = true) : worth char < 16 := by
  apply List.idxOf_lt_length_iff.2
  simpa [isNumeral] using numeral

/-- One more numeral behind the others counts once, and the others count sixteen times as much. -/
theorem number_append (chars : Bytes) (char : UInt8) :
    number (chars ++ [char]) = 16 * number chars + worth char := by
  simp only [number, List.map_append, List.map_cons, List.map_nil, List.reverse_append,
    List.reverse_singleton, List.singleton_append, Nat.ofDigits_cons]
  omega

/-- Numerals make a number less than so many powers of sixteen. -/
theorem number_lt {chars : Bytes} (numerals : ∀ char ∈ chars, isNumeral char = true) :
    number chars < 16 ^ chars.length := by
  have small : ∀ digit ∈ (chars.map worth).reverse, digit < 16 := by
    intro digit mem
    obtain ⟨char, inside, rfl⟩ := List.mem_map.1 (List.mem_reverse.1 mem)
    exact worth_lt (numerals char inside)
  simpa [number] using Nat.ofDigits_lt_base_pow_length (by decide) small

/-- What a field begins with is worth the same in either case. -/
theorem map_worth_takeWhile (field : Bytes) :
    (field.takeWhile isNumeral).map worth =
      ((field.map upper).takeWhile (alphabet.contains ·)).map (alphabet.idxOf ·) := by
  rw [List.takeWhile_map, List.map_map]
  rfl

/-! ## The reader -/

/-- The reader takes a character for a digit if it is a numeral, and then for what it is worth. -/
theorem digitValue?_eq_worth (char : UInt8) :
    (digitValue? char).map UInt8.toNat = if isNumeral char then some (worth char) else none := by
  refine forall_of_table char ?_
  decide +kernel

/-- The driver takes the numerals for digits, and nothing else. -/
theorem isDigit_eq_isNumeral (char : UInt8) : isDigit char = isNumeral char := by
  have read := congrArg Option.isSome (digitValue?_eq_worth char)
  rw [Option.isSome_map] at read
  rw [isDigit, read]
  by_cases numeral : isNumeral char = true <;> simp [numeral]

/-- The numerals are the bytes of three ranges. All of them are ASCII. -/
theorem isNumeral_iff {char : UInt8} :
    isNumeral char = true ↔ (0x30 ≤ char ∧ char ≤ 0x39) ∨ (0x41 ≤ char ∧ char ≤ 0x46) ∨
      (0x61 ≤ char ∧ char ≤ 0x66) := by
  rw [← isDigit_eq_isNumeral, isDigit, digitValue?]
  split_ifs with decimal upper lower <;> simp [*]

/-- The digits that are read are those of the numerals a field begins with. -/
theorem map_toNat_leadingDigits (field : Bytes) :
    (leadingDigits field).map UInt8.toNat = (field.takeWhile isNumeral).map worth := by
  induction field with
  | nil => rfl
  | cons char rest ih =>
    have first := digitValue?_eq_worth char
    unfold leadingDigits
    by_cases numeral : isNumeral char = true
    · rw [if_pos numeral] at first
      obtain ⟨value, read, isWorth⟩ := Option.map_eq_some_iff.1 first
      simp [read, isWorth, ih, numeral]
    · rw [if_neg numeral] at first
      simp [Option.map_eq_none_iff.1 first, numeral]

/-- The number of some digits, the highest first, is that of the digits reversed, the lowest first.
-/
theorem positional_eq_ofDigits (digits : List UInt8) :
    positional digits = Nat.ofDigits 16 (digits.map UInt8.toNat).reverse := by
  induction digits using List.reverseRecOn with
  | nil => rfl
  | append_singleton digits digit ih =>
    rw [positional_append, ih, List.map_append, List.reverse_append, List.map_singleton,
      List.reverse_singleton, List.singleton_append, Nat.ofDigits_cons]
    omega

/-- The number of the leading digits is that of the leading numerals. -/
theorem positional_leadingDigits (field : Bytes) :
    positional (leadingDigits field) = number (field.takeWhile isNumeral) := by
  rw [positional_eq_ofDigits, map_toNat_leadingDigits, number]

/-- A field that is not too wide is worth the number it begins with. -/
theorem toNat_leadingValue_eq_number {field : Bytes} (fits : field.length ≤ maxWidth) :
    (leadingValue field).toNat = number (field.takeWhile isNumeral) := by
  rw [toNat_leadingValue fits, positional_leadingDigits]

/-- A field that is too wide counts as zero. -/
theorem leadingValue_of_wide {field : Bytes} (wide : maxWidth < field.length) :
    leadingValue field = 0 :=
  if_pos wide

/-- A field is worth the same in either case. -/
theorem leadingValue_of_upper_eq {field field' : Bytes}
    (same : field'.map upper = field.map upper) :
    leadingValue field' = leadingValue field := by
  have length_eq : field'.length = field.length := by simpa using congrArg List.length same
  by_cases fits : field.length ≤ maxWidth
  · apply UInt64.toNat_inj.1
    rw [toNat_leadingValue_eq_number fits,
      toNat_leadingValue_eq_number (Nat.le_trans (Nat.le_of_eq length_eq) fits), number, number,
      map_worth_takeWhile, map_worth_takeWhile, same]
  · rw [leadingValue_of_wide (by omega), leadingValue_of_wide (by omega)]

/-- Two characters that are numerals are read as the number they stand for. -/
theorem toNat_leadingByte_eq_number {field : Bytes} (fits : field.length ≤ 2)
    (numerals : ∀ char ∈ field, isNumeral char = true) :
    (leadingByte field).toNat = number field := by
  rw [toNat_leadingByte fits, positional_leadingDigits, List.takeWhile_eq_self_iff.2 numerals]

/-- Four characters that are numerals are read as the number they stand for. -/
theorem toNat_leadingWord_eq_number {field : Bytes} (fits : field.length ≤ 4)
    (numerals : ∀ char ∈ field, isNumeral char = true) :
    (leadingWord field).toNat = number field := by
  rw [toNat_leadingWord fits, positional_leadingDigits, List.takeWhile_eq_self_iff.2 numerals]

/-! ## Room for the value -/

/-- The value with another digit behind it, unless the shift that makes room for the digit drops a
bit: then shifting back does not lead to the value again. -/
def shiftIn? (value : UInt64) (digit : UInt8) : Option UInt64 :=
  if (value <<< 4) >>> 4 = value then some ((value <<< 4) ||| digit.toUInt64) else none

/-- A digit can be shifted in if the four highest bits are free. -/
theorem shiftIn?_of_lt {value : UInt64} (room : value.toNat < 2 ^ 60) (digit : UInt8) :
    shiftIn? value digit = some ((value <<< 4) ||| digit.toUInt64) := by
  apply if_pos
  apply UInt64.toNat_inj.1
  simp only [UInt64.toNat_shiftRight, UInt64.toNat_shiftLeft, Nat.shiftLeft_eq,
    Nat.shiftRight_eq_div_pow]
  simp
  omega

/-- Sixteen digits are read without a bit being dropped. -/
theorem foldlM_shiftIn? {digits : List UInt8} (small : ∀ digit ∈ digits, digit < 16)
    (room : digits.length ≤ 16) :
    digits.foldlM shiftIn? 0 =
      some (digits.foldl (fun (value : UInt64) digit => (value <<< 4) ||| digit.toUInt64) 0) := by
  -- By induction on the last digit: what was read before it is the number of the others.
  induction digits using List.reverseRecOn with
  | nil => rfl
  | append_singleton digits digit ih =>
    rw [List.length_append, List.length_singleton] at room
    have front : ∀ other ∈ digits, other < 16 := fun other mem => small other (by simp [mem])
    have read : (digits.foldl
        (fun (value : UInt64) digit => (value <<< 4) ||| digit.toUInt64) 0).toNat < 2 ^ 60 := by
      rw [toNat_foldl_appendDigit front (show (0 : UInt64).toNat < 16 ^ 0 by decide) (by omega)]
      calc positional digits
        _ < 16 ^ digits.length := positional_lt front
        _ ≤ 16 ^ 15 := Nat.pow_le_pow_right (by decide) (by omega)
        _ = 2 ^ 60 := by decide
    rw [List.foldlM_append, ih front (by omega), Option.bind_eq_bind, Option.bind_some,
      List.foldl_append, List.foldlM_cons, shiftIn?_of_lt read]
    rfl

/-- **What a field is worth.** The numerals are the ASCII digits and the letters from A to F, in
either case. A field wider than fifteen characters is worth nothing. Any other is worth the number
of the numerals it begins with, which is too small for a shift of the accumulator to drop a bit. The
case of letters makes no difference, nor does anything from the first character on that is no
numeral. A numeral more makes the value sixteen times as much and adds its own. -/
theorem leadingValue_exact (field : Bytes) :
    (∀ char, isNumeral char = true ↔ (0x30 ≤ char ∧ char ≤ 0x39) ∨
        (0x41 ≤ char ∧ char ≤ 0x46) ∨ (0x61 ≤ char ∧ char ≤ 0x66)) ∧
      (maxWidth < field.length → leadingValue field = 0) ∧
      (field.length ≤ maxWidth →
        (leadingValue field).toNat = number (field.takeWhile isNumeral) ∧
          (leadingValue field).toNat < 16 ^ (field.takeWhile isNumeral).length ∧
          16 ^ (field.takeWhile isNumeral).length ≤ 2 ^ 60 ∧
          (leadingDigits field).foldlM shiftIn? 0 = some (leadingValue field)) ∧
      (∀ field' : Bytes, field'.map upper = field.map upper →
        leadingValue field' = leadingValue field) ∧
      (∀ front stop behind stop' behind', field = front ++ stop :: behind →
        isNumeral stop = false → isNumeral stop' = false →
        field.length ≤ maxWidth → (front ++ stop' :: behind').length ≤ maxWidth →
          leadingValue (front ++ stop' :: behind') = leadingValue field) ∧
      ∀ char, (∀ other ∈ field, isNumeral other = true) → isNumeral char = true →
        field.length + 1 ≤ maxWidth →
          (leadingValue (field ++ [char])).toNat =
            16 * (leadingValue field).toNat + worth char := by
  refine ⟨fun char => isNumeral_iff, leadingValue_of_wide, fun fits => ?_,
    fun field' => leadingValue_of_upper_eq, ?_, ?_⟩
  · have begins : (field.takeWhile isNumeral).length ≤ 15 :=
      Nat.le_trans (List.takeWhile_prefix _).length_le fits
    have width := length_leadingDigits_le field
    refine ⟨toNat_leadingValue_eq_number fits, ?_, ?_, ?_⟩
    · rw [toNat_leadingValue_eq_number fits]
      exact number_lt fun char mem => List.mem_takeWhile_imp mem
    · exact Nat.pow_le_pow_right (by decide : 0 < 16) begins
    · unfold leadingValue
      rw [if_neg (Nat.not_lt.2 fits)]
      apply foldlM_shiftIn? (leadingDigits_lt field)
      unfold maxWidth at fits
      omega
  · rintro front stop behind stop' behind' rfl stops stops' fits fits'
    apply UInt64.toNat_inj.1
    rw [toNat_leadingValue_eq_number fits, toNat_leadingValue_eq_number fits',
      takeWhile_stopped front stops, takeWhile_stopped front stops']
  · intro char numerals numeral fits
    have all : ∀ other ∈ field ++ [char], isNumeral other = true := by
      simpa [or_imp, forall_and] using ⟨numerals, numeral⟩
    have length_eq : (field ++ [char]).length = field.length + 1 := by simp
    rw [toNat_leadingValue_eq_number (Nat.le_trans (Nat.le_of_eq length_eq) fits),
      toNat_leadingValue_eq_number (Nat.le_of_succ_le fits), List.takeWhile_eq_self_iff.2 all,
      List.takeWhile_eq_self_iff.2 numerals, number_append]

/-- A field in mixed case, with noise behind it, with a numeral more, and widened by zeros. -/
theorem leadingValue_exact_of_mixed_case :
    let field : Bytes := [0x31, 0x61, 0x46]
    (leadingValue field).toNat = 0x1AF ∧ leadingValue [0x31, 0x41, 0x66] = leadingValue field ∧
      leadingValue (field ++ [0xFF, 0x37]) = leadingValue (field ++ [0x47]) ∧
      (leadingValue (field ++ [0x38])).toNat = 16 * 0x1AF + 8 ∧
      leadingValue (List.replicate 13 0x30 ++ field) = 0 := by
  intro field
  have numerals : ∀ char ∈ field, isNumeral char = true := by decide +kernel
  obtain ⟨-, -, fits, cases, -, more⟩ := leadingValue_exact field
  obtain ⟨-, -, -, -, stopped, -⟩ := leadingValue_exact (field ++ [0x47])
  obtain ⟨-, wide, -⟩ := leadingValue_exact (List.replicate 13 0x30 ++ field)
  have isNumber : (leadingValue field).toNat = 0x1AF := by
    rw [(fits (by decide)).1, List.takeWhile_eq_self_iff.2 numerals]
    rfl
  refine ⟨isNumber, cases _ (by decide), ?_, ?_, wide (by decide)⟩
  · exact stopped field 0x47 [] 0xFF [0x37] rfl (by decide) (by decide) (by decide) (by decide)
  · rw [more 0x38 numerals (by decide) (by decide), isNumber]
    rfl

end UpsTelemetry.Hex
