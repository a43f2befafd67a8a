import UpsTelemetry.Text.Hex

/-!
# The two checksums of a frame

A frame carries a checksum on its own length and one on its contents.

* The LENGTH field (`lengthField`) holds the twelve bits of the INFO length under a nibble which
  makes the four nibbles add up to zero modulo sixteen.
* The CHKSUM field (`checksum`) is the 16-bit word which makes the bytes from VER to the end of
  INFO add up to zero modulo 65536.

Both travel as four hexadecimal digits in upper case (`lengthText`, `checksumText`).
-/

namespace UpsTelemetry.Frame

/-! ## The length of INFO -/

/-- The longest INFO that a LENGTH field can announce. -/
def maxInfoLength : UInt16 := 0x0FFF

/-- The sum of the nibbles of a twelve-bit length. -/
def nibbleSum (length : UInt16) : UInt16 :=
  length % 16 + length / 16 % 16 + length / 256 % 16

/-- The LENGTH field for an INFO of `length` characters, of which the low twelve bits count. -/
def lengthField (length : UInt16) : UInt16 :=
  let bits := length &&& maxInfoLength
  bits + (-nibbleSum bits % 16) * 0x1000

/-- The LENGTH field as text. -/
def lengthText (length : UInt16) : Bytes :=
  Hex.ofWord (lengthField length)

/-- Whether the top nibble of a LENGTH field is the one its length bits ask for. -/
def lengthFieldValid (field : UInt16) : Bool :=
  lengthField (field &&& maxInfoLength) == field

/-- The INFO length that a LENGTH field announces. -/
def announcedLength (field : UInt16) : Nat :=
  (field &&& maxInfoLength).toNat

/-- A LENGTH field has four characters. -/
@[simp] theorem length_lengthText (length : UInt16) : (lengthText length).length = 4 := rfl

/-! ## The contents -/

/-- The word that brings the sum of the bytes of `body` to zero modulo 65536. -/
def checksum (body : Bytes) : UInt16 :=
  -body.foldl (fun sum byte => sum + byte.toUInt16) 0

/-- The CHKSUM field as text. -/
def checksumText (body : Bytes) : Bytes :=
  Hex.ofWord (checksum body)

/-- So has CHKSUM. -/
@[simp] theorem length_checksumText (body : Bytes) : (checksumText body).length = 4 := rfl

end UpsTelemetry.Frame
