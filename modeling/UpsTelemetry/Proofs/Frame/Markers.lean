import Mathlib.Data.List.Basic
import UpsTelemetry.Proofs.Frame.Request

/-!
# Markers and requests

A frame stands between two markers, neither of which is a hexadecimal digit. If all that is between
them is digits, a reader that looks for a marker finds the right one; INFO may hold any bytes, so
not every intact frame is of this kind.

* `BeginsOnce`, `EndsOnce`: a marker stands at its end of some bytes and nowhere else.
* `beginsOnce_sealed`, `endsOnce_sealed`: this is so of a frame of digits.
* `Address.ofString?_eq_some_iff`: an address is read from the characters that are sent for it.
* `isFrame_of_verify`: bytes that have no end marker but the last are one frame, if they pass.
* `IsRequest`: what a request looks like to whoever reads it, field by field.
  `isRequest_sealed`: every request of digits does.
-/

namespace UpsTelemetry

/-! ## Addresses -/

namespace Address

/-- The code of a digit is an ASCII code. -/
theorem ascii_of_isDigit {code : UInt8} (digit : Hex.isDigit code = true) :
    code.toNat < 0x80 := by
  revert digit
  refine Hex.forall_of_table code ?_
  decide +kernel

/-- A character has the code of a digit exactly if that is its own. -/
theorem digitCode?_eq_some_iff {char : Char} {code : { code : UInt8 // Hex.isDigit code = true }} :
    digitCode? char = some code ↔ code.1.toNat = char.toNat := by
  unfold digitCode?
  constructor
  · intro found
    split at found
    · next ascii =>
      obtain rfl := Option.some.inj found
      exact Nat.mod_eq_of_lt (Nat.lt_trans ascii.1 (by decide))
    · cases found
  · intro same
    have isCode : char.toNat.toUInt8 = code.1 := by
      rw [← same]
      exact UInt8.ofNat_toNat
    rw [dif_pos ⟨same ▸ ascii_of_isDigit code.2, isCode ▸ code.2⟩]
    exact congrArg some (Subtype.ext isCode)

/-- An address is read from the two characters that are sent for it, and from no other text. -/
theorem ofString?_eq_some_iff {text : String} {address : Address} :
    ofString? text = some address ↔
      address.bytes.map UInt8.toNat = text.toList.map Char.toNat := by
  obtain ⟨high, low, high_isDigit, low_isDigit⟩ := address
  unfold ofString? bytes
  constructor
  · intro found
    split at found
    · next first second chars =>
      obtain ⟨high', first', rest⟩ := Option.bind_eq_some_iff.1 found
      obtain ⟨low', second', same⟩ := Option.bind_eq_some_iff.1 rest
      cases same
      rw [chars, List.map_cons, List.map_singleton, List.map_cons, List.map_singleton,
        digitCode?_eq_some_iff.1 first', digitCode?_eq_some_iff.1 second']
    · cases found
  · intro same
    obtain ⟨first, second, chars⟩ : ∃ first second, text.toList = [first, second] := by
      have length := congrArg List.length same
      rw [List.length_map, List.length_map] at length
      exact List.length_eq_two.1 length.symm
    rw [chars] at same ⊢
    obtain ⟨first', second'⟩ : high.toNat = first.toNat ∧ low.toNat = second.toNat := by
      simpa using same
    have high' := (@digitCode?_eq_some_iff first ⟨high, high_isDigit⟩).2 first'
    have low' := (@digitCode?_eq_some_iff second ⟨low, low_isDigit⟩).2 second'
    simp only [high', low', Option.bind_eq_bind, Option.bind_some, Option.pure_def]

end Address

namespace Frame

/-! ## Markers -/

/-- The start marker is the first byte, and no other byte is one. -/
def BeginsOnce (bytes : Bytes) : Prop :=
  ∀ position, bytes[position]? = some startMarker ↔ position = 0

/-- The end marker is the last byte, and no other byte is one. -/
def EndsOnce (bytes : Bytes) : Prop :=
  ∀ position, bytes[position]? = some endMarker ↔ position + 1 = bytes.length

/-- A start marker in front of bytes without one can be told. -/
theorem beginsOnce_cons {rest : Bytes} (absent : startMarker ∉ rest) :
    BeginsOnce (startMarker :: rest) := by
  intro position
  cases position with
  | zero => exact iff_of_true rfl rfl
  | succ position =>
    rw [List.getElem?_cons_succ]
    refine iff_of_false (fun found => absent ?_) (Nat.succ_ne_zero position)
    exact List.mem_of_getElem? found

/-- So can an end marker behind bytes without one. -/
theorem endsOnce_concat {front : Bytes} (absent : endMarker ∉ front) :
    EndsOnce (front ++ [endMarker]) := by
  intro position
  rw [List.length_append, List.length_singleton, Nat.add_right_cancel_iff]
  rcases Nat.lt_trichotomy position front.length with before | rfl | behind
  · rw [List.getElem?_append_left before]
    refine iff_of_false (fun found => absent ?_) (Nat.ne_of_lt before)
    exact List.mem_of_getElem? found
  · exact iff_of_true List.getElem?_concat_length rfl
  · rw [List.getElem?_eq_none (by rw [List.length_append, List.length_singleton]; omega)]
    exact iff_of_false nofun (Nat.ne_of_gt behind)

/-! ## Frames of digits -/

section digits

variable {header info : Bytes} (headerDigits : ∀ char ∈ header, Hex.isDigit char = true)
  (infoDigits : ∀ char ∈ info, Hex.isDigit char = true)

include headerDigits infoDigits

/-- With digits in header and INFO there are only digits between the markers. -/
theorem isDigit_inside :
    ∀ char ∈ body header info ++ checksumText (body header info), Hex.isDigit char = true := by
  intro char mem
  simp only [body, List.mem_append] at mem
  rcases mem with ((inHeader | inLength) | inInfo) | inChecksum
  · exact headerDigits char inHeader
  · exact Hex.isDigit_ofWord _ char inLength
  · exact infoDigits char inInfo
  · exact Hex.isDigit_ofWord _ char inChecksum

/-- A frame of digits can be told where it begins. -/
theorem beginsOnce_sealed : BeginsOnce (sealed header info) := by
  have digits := isDigit_inside headerDigits infoDigits
  refine beginsOnce_cons fun mem => ?_
  rcases List.mem_append.1 mem with inside | last
  · cases digits _ inside
  · cases List.mem_singleton.1 last

/-- The end marker is not among the bytes in front of it. -/
theorem endMarker_not_mem_front :
    endMarker ∉ startMarker :: body header info ++ checksumText (body header info) := by
  intro mem
  rcases List.mem_cons.1 mem with first | inside
  · cases first
  · cases isDigit_inside headerDigits infoDigits _ inside

/-- It can be told where it ends, too. -/
theorem endsOnce_sealed : EndsOnce (sealed header info) :=
  endsOnce_concat (endMarker_not_mem_front headerDigits infoDigits)

end digits

/-! ## Frames in what was received -/

/-- Bytes that begin with an intact frame, and have no end marker before the last byte, are that
frame and nothing else. -/
theorem isFrame_of_verify {bytes : Bytes} (intact : (Reply.mk bytes).verify = .ok ())
    (inside : endMarker ∉ bytes.dropLast) : IsFrame bytes ∧ EndsOnce bytes := by
  obtain ⟨⟨header, info, tail, length_header, length_info⟩, rfl⟩ := verify_eq_ok_iff.1 intact
  rw [IntactFrame.bytes] at inside ⊢
  dsimp only at inside ⊢
  cases tail with
  | nil =>
    rw [List.append_nil] at inside ⊢
    refine ⟨isFrame_iff.2 ⟨header, info, length_header, length_info, rfl⟩, endsOnce_concat ?_⟩
    rwa [sealed, List.dropLast_concat] at inside
  | cons byte rest =>
    have ends : endMarker ∈ sealed header info :=
      List.mem_append_right _ (List.mem_singleton_self _)
    rw [List.dropLast_append, if_neg (by simp)] at inside
    exact absurd (List.mem_append_left _ ends) inside

/-! ## Requests -/

/-- The header of a request of the driver is digits. -/
theorem isDigit_requestHeader (command : Command) (address : Address) :
    ∀ char ∈ requestHeader command .current address, Hex.isDigit char = true := by
  intro char mem
  simp only [requestHeader, Version.bytes, Version.current, Address.bytes, Command.code,
    List.mem_append, List.mem_cons, List.not_mem_nil, or_false] at mem
  rcases mem with ((rfl | rfl) | (rfl | rfl)) | (kind | frame)
  · decide
  · decide
  · exact address.high_isDigit
  · exact address.low_isDigit
  · exact Hex.isDigit_ofByte _ char kind
  · exact Hex.isDigit_ofByte _ char frame

/-- What a request by a code looks like, with a payload for the device of an address. -/
structure IsRequest (address : Address) (code payload frame : Bytes) : Prop where
  /-- It is one intact frame, and nothing trails it. -/
  whole : IsFrame frame
  /-- It has no other bytes than those of a frame and the payload. -/
  length_eq : frame.length = 18 + payload.length
  /-- It can be told where it begins. -/
  begins : BeginsOnce frame
  /-- It can be told where it ends. -/
  ends : EndsOnce frame
  /-- VER is 21. -/
  version_eq : frame.slice? 1 2 = some [0x32, 0x31]
  /-- ADR is the address. -/
  address_eq : frame.slice? 3 2 = some address.bytes
  /-- CID is the code. -/
  code_eq : frame.slice? 5 4 = some code
  /-- INFO is the payload. -/
  payload_eq : frame.slice? 13 payload.length = some payload

/-- A request of the driver with a payload of digits looks so. -/
theorem isRequest_sealed (command : Command) (address : Address) {payload : Bytes}
    (digits : ∀ char ∈ payload, Hex.isDigit char = true) (short : payload.length ≤ 0x0FFF) :
    IsRequest address command.code payload
      (sealed (requestHeader command .current address) payload) :=
  have back := readsBack_sealed command .current address short
  { whole := back.whole
    length_eq := back.length_eq.trans (Nat.add_comm _ _)
    begins := beginsOnce_sealed (isDigit_requestHeader command address) digits
    ends := endsOnce_sealed (isDigit_requestHeader command address) digits
    version_eq := back.version_eq
    address_eq := back.address_eq
    code_eq := back.code_eq
    payload_eq := back.payload_eq }

end Frame

end UpsTelemetry
