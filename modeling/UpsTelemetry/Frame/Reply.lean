import UpsTelemetry.Frame.Basic
import UpsTelemetry.Frame.Error
import UpsTelemetry.Text.Padded

/-!
# Replies

A reply is whatever bytes came back. Nothing is assumed of them: every reader asks whether its
field lies inside the received bytes, and fails with the offset of the field if it does not. The
received bytes include CHKSUM and the end marker, and may be a truncated or a damaged frame.

* `byte`, `word`, `text`: the fields of INFO, by their offset into it.
* `returnCode`: the byte with which the UPS accepts or rejects a request.
* `verify`: whether the bytes begin with an intact frame. The checks come in the order in which a
  reader needs them, and the first that fails gives the error.
-/

namespace UpsTelemetry

/-- The bytes received in answer to a request. -/
structure Reply where
  /-- All received bytes, from the first on. -/
  raw : Bytes
deriving DecidableEq, Repr

namespace Reply

open UpsTelemetry.Frame

/-! ## Fields -/

/-- The `width` characters at `offset` into INFO. -/
def info (reply : Reply) (offset width : Nat) : Except FrameError Bytes :=
  match reply.raw.slice? (headerLength + offset) width with
  | some field => .ok field
  | none => .error (.fieldOutOfRange offset)

/-- The one-byte field at `offset` into INFO. -/
def byte (reply : Reply) (offset : Nat) : Except FrameError UInt8 :=
  (reply.info offset 2).map Hex.leadingByte

/-- The two-byte field at `offset` into INFO. -/
def word (reply : Reply) (offset : Nat) : Except FrameError UInt16 :=
  (reply.info offset 4).map Hex.leadingWord

/-- The text in the `width` characters at `offset` into INFO, at most `room` characters of it. -/
def text (reply : Reply) (offset width room : Nat) : Except FrameError String :=
  (reply.info offset width).map (Padded.text room)

/-- The return code, which is outside INFO. -/
def returnCode (reply : Reply) : Except FrameError UInt8 :=
  match reply.raw.slice? returnCodeAt 2 with
  | some field => .ok (Hex.leadingByte field)
  | none => .error (.shortRead (returnCodeAt + 2) reply.raw.length)

/-! ## Integrity -/

/-- Checks the part of a frame that follows a LENGTH field which announces `length` characters of
INFO: all of it is there, CHKSUM is right, and the end marker is in its place. -/
def verifyContents (reply : Reply) (length : Nat) : Except FrameError Unit :=
  let infoEnd := headerLength + length
  if reply.raw.length < infoEnd + trailerLength then
    .error (.shortRead (infoEnd + trailerLength) reply.raw.length)
  else
    let covered := (reply.raw.take infoEnd).drop 1
    let carried := (reply.raw.drop infoEnd).take 4
    if carried ≠ checksumText covered then
      .error (.badChecksum (Hex.leadingWord carried) (checksum covered))
    else if reply.raw[infoEnd + 4]? ≠ some endMarker then .error .badMarker
    else .ok ()

/-- Checks that the received bytes begin with an intact frame: the header is there, the start
marker, the LENGTH field, then what LENGTH announces. -/
def verify (reply : Reply) : Except FrameError Unit :=
  match reply.raw.slice? lengthAt 4 with
  | none => .error (.shortRead headerLength reply.raw.length)
  | some lengthDigits =>
    let field := Hex.leadingWord lengthDigits
    if reply.raw.head? ≠ some startMarker then .error .badMarker
    else if lengthFieldValid field = false ∨ lengthDigits ≠ lengthText field then
      .error (.badLength field)
    else reply.verifyContents (announcedLength field)

end Reply

end UpsTelemetry
