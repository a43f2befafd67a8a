import UpsTelemetry.Text.Hex

/-!
# Device addresses

A device answers to an address of two hexadecimal digits. The operator may choose either case, and
the address is sent exactly as it was given, so two addresses of one number are different texts.
-/

namespace UpsTelemetry

/-- A device address: the ASCII codes of its two digits. -/
structure Address where
  /-- The first digit. -/
  high : UInt8
  /-- The second digit. -/
  low : UInt8
  /-- The first byte is the code of a hexadecimal digit. -/
  high_isDigit : Hex.isDigit high = true := by decide
  /-- The second byte is the code of a hexadecimal digit. -/
  low_isDigit : Hex.isDigit low = true := by decide
deriving DecidableEq, Repr

namespace Address

/-- The address the UPS leaves the factory with. -/
def standard : Address := { high := 0x30, low := 0x31 }

instance : Inhabited Address := ⟨standard⟩

/-- The two characters as they are sent. -/
def bytes (address : Address) : Bytes :=
  [address.high, address.low]

/-- The two characters as text. -/
def text (address : Address) : String :=
  String.ofList [Char.ofNat address.high.toNat, Char.ofNat address.low.toNat]

/-- The ASCII code of a character that is a hexadecimal digit. -/
def digitCode? (char : Char) : Option { code : UInt8 // Hex.isDigit code = true } :=
  if h : char.toNat < 0x80 ∧ Hex.isDigit char.toNat.toUInt8 = true then some ⟨_, h.2⟩ else none

/-- Reads an address, which is exactly two hexadecimal digits. -/
def ofString? (text : String) : Option Address :=
  match text.toList with
  | [first, second] => do
    let high ← digitCode? first
    let low ← digitCode? second
    return ⟨high, low, high.2, low.2⟩
  | _ => none

end Address

end UpsTelemetry
