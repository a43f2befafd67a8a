/-!
# What can be wrong with a frame

The causes for which a frame cannot be built, is not accepted, or does not hold a field, and the
wording of each. A cause says nothing about the line the frame came over.
-/

namespace UpsTelemetry

/-- A fault in the shape or the integrity of a frame. -/
inductive FrameError
  /-- The frame is longer than the room for it, or its INFO longer than LENGTH can announce. -/
  | overflow
  /-- Fewer bytes came than a frame of this kind has. -/
  | shortRead (expected got : Nat)
  /-- The frame does not begin with the start marker, or the end marker is not in its place. -/
  | badMarker
  /-- The LENGTH field is not the text of a length and its check nibble. -/
  | badLength (field : UInt16)
  /-- CHKSUM is not the checksum of the bytes it covers. -/
  | badChecksum (carried calculated : UInt16)
  /-- A field, named by its offset into INFO, lies outside the received bytes. -/
  | fieldOutOfRange (offset : Nat)
deriving DecidableEq, Repr

namespace FrameError

/-- A word as messages show it: four hexadecimal digits in lower case. -/
def wordText (word : UInt16) : String :=
  "0x" ++ String.ofList ((Nat.toDigits 16 word.toNat).leftpad 4 '0')

/-- The wording of each fault. -/
def message : FrameError → String
  | overflow => "Frame does not fit the buffer"
  | shortRead expected got =>
    "Short read from UPS: expected " ++ expected.repr ++ " bytes, got " ++ got.repr
  | badMarker => "Bad SOI or EOI marker"
  | badLength field => "Bad LCHKSUM in length field " ++ wordText field
  | badChecksum carried calculated =>
    "Bad CHKSUM: frame carries " ++ wordText carried ++ ", calculated " ++ wordText calculated
  | fieldOutOfRange offset =>
    "Field at INFO offset " ++ offset.repr ++ " is outside the frame"

end FrameError

end UpsTelemetry
