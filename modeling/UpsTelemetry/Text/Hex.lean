import UpsTelemetry.Bytes

/-!
# Hexadecimal text

The UPS carries every number as hexadecimal digits in ASCII. Writing is strict: two or four
digits, letters in upper case (`ofByte`, `ofWord`). Reading is lenient: a field is worth the value
of the digits it begins with, in either case, and a field that begins with none is worth zero
(`leadingValue`).

Fields wider than `maxWidth` are worth zero too, so a value takes at most sixty bits and the
64-bit accumulator never loses a digit.
-/

namespace UpsTelemetry.Hex

/-! ## Writing -/

/-- The digit of a value below sixteen, with letters in upper case. -/
def digit (value : UInt8) : UInt8 :=
  if value < 10 then 0x30 + value else 0x37 + value

/-- The two digits of a byte, high half first. -/
def ofByte (value : UInt8) : Bytes :=
  [digit (value >>> 4), digit (value &&& 0x0F)]

/-- The four digits of a 16-bit word, high byte first. -/
def ofWord (value : UInt16) : Bytes :=
  ofByte (value >>> 8).toUInt8 ++ ofByte value.toUInt8

/-- A byte is written in two digits. -/
@[simp] theorem length_ofByte (value : UInt8) : (ofByte value).length = 2 := rfl

/-- A word is written in four. -/
@[simp] theorem length_ofWord (value : UInt16) : (ofWord value).length = 4 := rfl

/-! ## Reading -/

/-- The value of a digit, in either case. -/
def digitValue? (char : UInt8) : Option UInt8 :=
  if 0x30 ≤ char ∧ char ≤ 0x39 then some (char - 0x30)
  else if 0x41 ≤ char ∧ char ≤ 0x46 then some (char - 0x37)
  else if 0x61 ≤ char ∧ char ≤ 0x66 then some (char - 0x57)
  else none

/-- Whether a byte is the ASCII code of a hexadecimal digit. -/
def isDigit (char : UInt8) : Bool :=
  (digitValue? char).isSome

/-- The values of the digits that a field begins with. -/
def leadingDigits : Bytes → List UInt8
  | [] => []
  | char :: rest =>
    match digitValue? char with
    | some value => value :: leadingDigits rest
    | none => []

/-- The widest field that is read as a number. -/
def maxWidth : Nat := 15

/-- The value of the digits that a field begins with, most significant first. A field wider than
`maxWidth` is worth zero. -/
def leadingValue (field : Bytes) : UInt64 :=
  if maxWidth < field.length then 0
  else (leadingDigits field).foldl (fun value digit => (value <<< 4) ||| digit.toUInt64) 0

/-- The value of a field as a byte: its low eight bits. -/
def leadingByte (field : Bytes) : UInt8 :=
  (leadingValue field).toUInt8

/-- The value of a field as a word: its low sixteen bits. -/
def leadingWord (field : Bytes) : UInt16 :=
  (leadingValue field).toUInt16

end UpsTelemetry.Hex
