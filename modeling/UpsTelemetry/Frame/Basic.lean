import UpsTelemetry.Frame.Checksum

/-!
# The shape of a frame

Requests and replies have one shape. Between a start and an end marker stand a header of eight
characters, the LENGTH field, INFO, and the CHKSUM field:

| field  | bytes | contents                                             |
|--------|-------|------------------------------------------------------|
| SOI    | 1     | `startMarker`                                        |
| VER    | 2     | protocol version                                     |
| ADR    | 2     | device address                                       |
| CID    | 4     | command code; a reply has a return code in its place |
| LENGTH | 4     | length of INFO, with its own check nibble            |
| INFO   | n     | contents                                             |
| CHKSUM | 4     | checksum over VER to INFO                            |
| EOI    | 1     | `endMarker`                                          |

`sealed` writes a frame around a header and an INFO. The positions below say where a reader finds
the parts again.
-/

namespace UpsTelemetry.Frame

/-- The byte every frame begins with. -/
def startMarker : UInt8 := 0x7E

/-- The byte every frame ends with. -/
def endMarker : UInt8 := 0x0D

/-- The number of bytes in front of INFO. -/
def headerLength : Nat := 13

/-- The number of bytes of a frame which are not INFO. -/
def overhead : Nat := 18

/-- The number of bytes behind INFO: CHKSUM and the end marker. -/
def trailerLength : Nat := 5

/-- Where a reply carries the return code: the second half of CID. -/
def returnCodeAt : Nat := 7

/-- Where the LENGTH field stands. -/
def lengthAt : Nat := 9

/-- The bytes that CHKSUM covers. INFO lengths count modulo 65536 here, and of those the LENGTH
field keeps twelve bits. -/
def body (header info : Bytes) : Bytes :=
  header ++ lengthText info.length.toUInt16 ++ info

/-- The whole frame around a header (VER, ADR and CID) and an INFO. -/
def sealed (header info : Bytes) : Bytes :=
  startMarker :: body header info ++ checksumText (body header info) ++ [endMarker]

/-- Markers, LENGTH and CHKSUM take up ten bytes. -/
theorem length_sealed (header info : Bytes) :
    (sealed header info).length = header.length + info.length + 10 := by
  simp only [sealed, body, List.cons_append, List.length_cons, List.length_append,
    length_lengthText, length_checksumText, List.length_nil]
  omega

end UpsTelemetry.Frame
