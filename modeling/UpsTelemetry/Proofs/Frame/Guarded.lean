import UpsTelemetry.Frame.Reply
import UpsTelemetry.Frame.Request

/-!
# Frames by guarded accesses

The library cuts bytes by functions that have an answer for every position: a piece is shorter, or
there is none. A program on arrays has a guard in front of every access, and stops if the access is
out of range. Here frames are read and built once more by accesses of that kind, with `none` for the
program that stopped. It never does, and comes to what the library says.

* `Guarded.window`, `Guarded.byteAt`, `Guarded.append`: accesses that may be out of range.
* `Guarded.cut_eq`: a piece that is asked for first is never out of range.
* `Guarded.returnCode_eq`, `Guarded.verify_eq`: neither is what is read of a frame, whatever was
  received.
* `Guarded.build_eq`: nor what is put into one, which never lacks the room either.
-/

namespace UpsTelemetry

/-- A computation in which an access out of range stops the program: then there is no result. -/
abbrev Guarded (α : Type) : Type := Option α

namespace Guarded

open UpsTelemetry.Frame

/-! ## Accesses -/

/-- The bytes from `start` up to `stop`, which must not lie before `start` or behind the end. -/
def window (bytes : Bytes) (start stop : Nat) : Guarded Bytes :=
  if start ≤ stop ∧ stop ≤ bytes.length then some ((bytes.take stop).drop start) else none

/-- The `width` bytes from `start` on, if they are there. -/
def cut (bytes : Bytes) (start width : Nat) : Guarded (Option Bytes) :=
  if start + width ≤ bytes.length then do
    let piece ← window bytes start (start + width)
    return some piece
  else some none

/-- The byte at a position, which must not lie behind the last. -/
def byteAt (bytes : Bytes) (position : Nat) : Guarded UInt8 :=
  bytes[position]?

/-- The bytes with more behind them, which there must be room for. -/
def append (room : Nat) (bytes more : Bytes) : Guarded Bytes :=
  if bytes.length + more.length ≤ room then some (bytes ++ more) else none

/-- The bytes with one piece after the other behind them. -/
def appendAll (room : Nat) : Bytes → List Bytes → Guarded Bytes
  | bytes, [] => some bytes
  | bytes, piece :: rest => do
    let bytes' ← append room bytes piece
    appendAll room bytes' rest

/-- A window inside the bytes is there. -/
theorem window_of_le {bytes : Bytes} {start stop : Nat} (forward : start ≤ stop)
    (inside : stop ≤ bytes.length) :
    window bytes start stop = some ((bytes.take stop).drop start) :=
  if_pos ⟨forward, inside⟩

/-- As many of the first bytes as there are, but no more than `count`, are always there. -/
theorem window_zero_min (bytes : Bytes) (count : Nat) :
    window bytes 0 (min count bytes.length) = some (bytes.take count) := by
  rw [window_of_le (Nat.zero_le _) (Nat.min_le_right _ _), List.drop_zero, ← List.take_take,
    List.take_length]

/-- A piece that is asked for first is never out of range. -/
@[simp] theorem cut_eq (bytes : Bytes) (start width : Nat) :
    cut bytes start width = some (bytes.slice? start width) := by
  unfold cut Bytes.slice?
  by_cases inside : start + width ≤ bytes.length
  case neg => rw [if_neg inside, if_neg inside]
  rw [if_pos inside, if_pos inside, window_of_le (Nat.le_add_right _ _) inside, List.drop_take,
    Nat.add_sub_cancel_left]
  rfl

/-- Bytes that fit are appended. -/
theorem append_of_le {room : Nat} {bytes more : Bytes} (fits : bytes.length + more.length ≤ room) :
    append room bytes more = some (bytes ++ more) :=
  if_pos fits

/-- Room for all pieces is room for each of them. -/
theorem appendAll_of_le {room : Nat} {bytes : Bytes} {pieces : List Bytes}
    (fits : bytes.length + pieces.flatten.length ≤ room) :
    appendAll room bytes pieces = some (bytes ++ pieces.flatten) := by
  induction pieces generalizing bytes with
  | nil => rw [List.flatten_nil, List.append_nil, appendAll]
  | cons piece rest ih =>
    rw [List.flatten_cons, List.length_append] at fits
    have first : append room bytes piece = some (bytes ++ piece) := append_of_le (by omega)
    have others : appendAll room (bytes ++ piece) rest = some (bytes ++ piece ++ rest.flatten) :=
      ih (by rw [List.length_append]; omega)
    rw [appendAll, first, List.flatten_cons, ← List.append_assoc]
    exact others

/-! ## Reading -/

/-- The return code. -/
def returnCode (raw : Bytes) : Guarded (Except FrameError UInt8) := do
  match ← cut raw returnCodeAt 2 with
  | some field => return .ok (Hex.leadingByte field)
  | none => return .error (.shortRead (returnCodeAt + 2) raw.length)

/-- Checks the part of a frame behind LENGTH, which announces `length` characters of INFO. -/
def verifyContents (raw : Bytes) (length : Nat) : Guarded (Except FrameError Unit) := do
  let infoEnd := headerLength + length
  let short : FrameError := .shortRead (infoEnd + trailerLength) raw.length
  match ← cut raw infoEnd 4 with
  | none => return .error short
  | some carried =>
    if raw.length < infoEnd + trailerLength then return .error short
    else
      let covered ← window raw 1 infoEnd
      if carried ≠ checksumText covered then
        return .error (.badChecksum (Hex.leadingWord carried) (checksum covered))
      else
        let last ← byteAt raw (infoEnd + 4)
        return if last ≠ endMarker then .error .badMarker else .ok ()

/-- Checks that the received bytes begin with an intact frame. -/
def verify (raw : Bytes) : Guarded (Except FrameError Unit) := do
  match ← cut raw lengthAt 4 with
  | none => return .error (.shortRead headerLength raw.length)
  | some lengthDigits =>
    let first ← byteAt raw 0
    let field := Hex.leadingWord lengthDigits
    if first ≠ startMarker then return .error .badMarker
    else if lengthFieldValid field = false ∨ lengthDigits ≠ lengthText field then
      return .error (.badLength field)
    else verifyContents raw (announcedLength field)

/-- Reading the return code never goes past the end of a reply. -/
@[simp] theorem returnCode_eq (reply : Reply) :
    returnCode reply.raw = some reply.returnCode := by
  rw [returnCode, cut_eq, Option.bind_eq_bind, Option.bind_some]
  unfold Reply.returnCode
  cases reply.raw.slice? returnCodeAt 2 <;> rfl

/-- Neither does checking the contents that LENGTH announces. -/
theorem verifyContents_eq (reply : Reply) (length : Nat) :
    verifyContents reply.raw length = some (reply.verifyContents length) := by
  unfold verifyContents Reply.verifyContents
  simp only [cut_eq, Option.bind_eq_bind, Option.bind_some]
  by_cases short : reply.raw.length < headerLength + length + trailerLength
  · rw [if_pos short]
    split
    · rfl
    · exact if_pos short
  have inside : headerLength + length + 4 < reply.raw.length := by
    rw [trailerLength] at short
    omega
  have carried : reply.raw.slice? (headerLength + length) 4 =
      some ((reply.raw.drop (headerLength + length)).take 4) :=
    Bytes.slice?_eq_some_iff.2 ⟨Nat.le_of_lt inside, rfl⟩
  have covered : window reply.raw 1 (headerLength + length) =
      some ((reply.raw.take (headerLength + length)).drop 1) :=
    window_of_le (Nat.le_add_right_of_le (by decide)) (by omega)
  have last : byteAt reply.raw (headerLength + length + 4) =
      some reply.raw[headerLength + length + 4] := List.getElem?_eq_getElem inside
  simp only [carried, if_neg short, covered, last, List.getElem?_eq_getElem inside,
    Option.bind_some, Option.pure_def, Option.some.injEq, ne_eq]
  split <;> rfl

/-- Reading a frame has no access out of range, whatever was received. -/
theorem verify_eq (reply : Reply) : verify reply.raw = some reply.verify := by
  unfold verify Reply.verify
  simp only [cut_eq, Option.bind_eq_bind, Option.bind_some]
  cases digits_eq : reply.raw.slice? lengthAt 4 with
  | none => rfl
  | some digits =>
    have there : 0 < reply.raw.length :=
      Nat.lt_of_lt_of_le (by decide) (Bytes.slice?_eq_some_iff.1 digits_eq).1
    have first : byteAt reply.raw 0 = some reply.raw[0] := List.getElem?_eq_getElem there
    simp only [first, List.head?_eq_getElem?, List.getElem?_eq_getElem there, Option.bind_some,
      Option.pure_def, Option.some.injEq, ne_eq, verifyContents_eq]
    split
    · rfl
    · split <;> rfl

/-! ## Building -/

/-- Puts a request together in a room of `capacity` bytes, piece by piece, with CHKSUM over all that
stands behind the start marker. The length of the payload is first made a word, which a longer one
is not. -/
def build (capacity : Nat) (command : Command) (version : Version) (address : Address)
    (payload : Bytes) : Guarded (Except FrameError Bytes) :=
  if payload.length < UInt16.size ∧ payload.length.toUInt16 ≤ maxInfoLength then
    if capacity < payload.length + overhead then some (.error .overflow)
    else do
      let front ← appendAll capacity [] [[startMarker], version.bytes, address.bytes,
        command.code, lengthText payload.length.toUInt16, payload]
      let covered ← window front 1 front.length
      let frame ← appendAll capacity front [checksumText covered, [endMarker]]
      return .ok frame
  else some (.error .overflow)

/-- To compare a length as a word is to compare it as a number, if it is one that a word can hold.
-/
theorem toUInt16_le_maxInfoLength_iff {length : Nat} :
    length < UInt16.size ∧ length.toUInt16 ≤ maxInfoLength ↔ length ≤ maxInfoLength.toNat := by
  rw [UInt16.le_iff_toNat_le, UInt16.toNat_ofNat', show maxInfoLength.toNat = 4095 from rfl,
    UInt16.size]
  omega

/-- Building a request has no access out of range and never lacks the room for a piece: what does
not fit was refused before. -/
theorem build_eq (capacity : Nat) (command : Command) (version : Version) (address : Address)
    (payload : Bytes) :
    build capacity command version address payload =
      some (request? capacity command version address payload) := by
  unfold build request?
  simp only [toUInt16_le_maxInfoLength_iff]
  by_cases long : payload.length ≤ maxInfoLength.toNat
  case neg => rw [if_neg long, if_neg fun fits => long fits.1]
  by_cases fits : payload.length + overhead ≤ capacity
  case neg => rw [if_pos long, if_pos (Nat.not_le.1 fits), if_neg fun both => fits both.2]
  rw [if_pos long, if_neg (Nat.not_lt.2 fits), if_pos ⟨long, fits⟩]
  have size : payload.length + 18 ≤ capacity := fits
  generalize front_eq : startMarker :: body (requestHeader command version address) payload = front
  have pieces : [[startMarker], version.bytes, address.bytes, command.code,
      lengthText payload.length.toUInt16, payload].flatten = front := by
    rw [← front_eq, body, requestHeader]
    simp
  have length_front : front.length = payload.length + 13 := by
    rw [← front_eq]
    simp [body, requestHeader, Version.bytes, Address.bytes]
    omega
  have put : appendAll capacity [] [[startMarker], version.bytes, address.bytes, command.code,
      lengthText payload.length.toUInt16, payload] = some front := by
    rw [appendAll_of_le (by rw [pieces, length_front, List.length_nil]; omega), pieces,
      List.nil_append]
  have covered : window front 1 front.length =
      some (body (requestHeader command version address) payload) := by
    rw [window_of_le (by omega) (Nat.le_refl _), List.take_length, ← front_eq]
    rfl
  have closed (digits : Bytes) (four : digits.length = 4) :
      appendAll capacity front [digits, [endMarker]] = some (front ++ digits ++ [endMarker]) := by
    rw [appendAll_of_le (by simp [length_front, four]; omega)]
    simp
  simp only [put, covered, closed _ (length_checksumText _), Option.bind_eq_bind,
    Option.bind_some, Option.pure_def, sealed, front_eq]

end Guarded

end UpsTelemetry
