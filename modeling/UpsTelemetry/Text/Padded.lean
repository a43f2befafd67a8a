import UpsTelemetry.Text.Hex

/-!
# Padded text fields

A text field holds one character per pair of hexadecimal digits and is padded with spaces to its
fixed width. The text ends at the first space, and at a NUL as well, so it has no blanks of its
own. The UPS means to send ASCII: any other byte is shown as a question mark, which keeps one
character per byte. A reader with room for fewer characters keeps the first ones.
-/

namespace UpsTelemetry.Padded

/-- The space that pads a field. -/
def padding : UInt8 := 0x20

/-- The character shown for one byte of text, or `none` if the byte ends the text. -/
def char? (byte : UInt8) : Option Char :=
  if byte = padding ∨ byte = 0x00 then none
  else if byte < 0x80 then some (Char.ofNat byte.toNat)
  else some '?'

/-- The characters of a field, at most `room` of them. A last digit without a partner stands for
the byte of its own value. -/
def chars : (room : Nat) → (field : Bytes) → List Char
  | 0, _ => []
  | _ + 1, [] => []
  | _ + 1, [single] => (char? (Hex.leadingByte [single])).toList
  | room + 1, high :: low :: rest =>
    match char? (Hex.leadingByte [high, low]) with
    | some char => char :: chars room rest
    | none => []

/-- The text of a field, at most `room` characters of it. -/
def text (room : Nat) (field : Bytes) : String :=
  String.ofList (chars room field)

/-- A text is never longer than its room. -/
theorem length_chars_le (room : Nat) (field : Bytes) : (chars room field).length ≤ room := by
  fun_induction chars room field with
  | case1 => simp
  | case2 => simp
  | case3 room single => cases char? (Hex.leadingByte [single]) <;> simp
  | case4 room high low rest char h ih => simpa using ih
  | case5 => simp

end UpsTelemetry.Padded
