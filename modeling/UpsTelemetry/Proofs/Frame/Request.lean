import Mathlib.Data.List.Basic
import UpsTelemetry.Proofs.Frame.Damage
import UpsTelemetry.Proofs.Frame.Guarded

/-!
# What is built is read back

A request is written by one definition and read by another. Whatever is built passes the reader, and
the reader finds every part of it as it was given, so the parts of a request can be told from its
frame.

* `ReadsBack`: what a reader finds in the frame of a request. `readsBack_sealed`: it is so of every
  request, whatever the bytes of version and payload.
* `ReadsBack.unique`: no other request has the same frame.
* `request_reads_back`: the main statement, with the conditions under which there is a frame.
-/

namespace UpsTelemetry

/-- A command is known by its code. -/
theorem Command.find?_frameKind (command : Command) :
    all.find? (fun other => other.frameKind == command.frameKind) = some command := by
  cases command <;> rfl

/-- Frames have different codes. -/
theorem Command.code_inj {first second : Command} (same : first.code = second.code) :
    first = second := by
  have kind : first.frameKind = second.frameKind := by
    rw [← Hex.leadingByte_ofByte first.frameKind, ← Hex.leadingByte_ofByte second.frameKind,
      List.append_cancel_left same]
  have found := first.find?_frameKind
  rw [kind, second.find?_frameKind] at found
  exact (Option.some.inj found).symm

/-- Versions are sent as different characters. -/
theorem Version.bytes_inj {first second : Version} (same : first.bytes = second.bytes) :
    first = second := by
  obtain ⟨major, minor⟩ := first
  obtain ⟨major', minor'⟩ := second
  simpa [bytes] using same

/-- So are addresses. -/
theorem Address.bytes_inj {first second : Address} (same : first.bytes = second.bytes) :
    first = second := by
  obtain ⟨high, low, _, _⟩ := first
  obtain ⟨high', low', _, _⟩ := second
  simpa [bytes] using same

namespace Frame

/-- What a reader finds in the frame of a request. -/
structure ReadsBack (command : Command) (version : Version) (address : Address)
    (payload frame : Bytes) : Prop where
  /-- It is one intact frame, and nothing trails it. -/
  whole : IsFrame frame
  /-- It has no other bytes than those of a frame and the payload. -/
  length_eq : frame.length = payload.length + 18
  /-- VER is the version. -/
  version_eq : frame.slice? 1 2 = some version.bytes
  /-- ADR is the address. -/
  address_eq : frame.slice? 3 2 = some address.bytes
  /-- CID is the code of the command. -/
  code_eq : frame.slice? 5 4 = some command.code
  /-- LENGTH announces the payload. -/
  announced_eq : announcedLength (Hex.leadingWord ((frame.drop 9).take 4)) = payload.length
  /-- INFO is the payload. -/
  payload_eq : frame.slice? 13 payload.length = some payload

variable {command command' : Command} {version version' : Version} {address address' : Address}
  {payload payload' frame : Bytes}

/-- The header of a request has eight characters. -/
theorem length_requestHeader (command : Command) (version : Version) (address : Address) :
    (requestHeader command version address).length = 8 := rfl

/-- A request whose payload LENGTH can announce is read back. -/
theorem readsBack_sealed (command : Command) (version : Version) (address : Address)
    (short : payload.length ≤ 0x0FFF) :
    ReadsBack command version address payload
      (sealed (requestHeader command version address) payload) := by
  have whole : IsFrame (sealed (requestHeader command version address) payload) :=
    isFrame_iff.2 ⟨_, payload, rfl, short, rfl⟩
  have size : (sealed (requestHeader command version address) payload).length =
      payload.length + 18 := by
    rw [length_sealed, length_requestHeader]
    omega
  have announced := whole.2
  rw [size, overhead, lengthAt] at announced
  refine ⟨whole, size, ?_, ?_, ?_, by omega, ?_⟩
  · exact Bytes.slice?_append [startMarker] version.bytes _
  · exact Bytes.slice?_append (startMarker :: version.bytes) address.bytes _
  · exact Bytes.slice?_append (startMarker :: (version.bytes ++ address.bytes)) command.code _
  · rw [sealed_eq, List.append_assoc payload]
    exact Bytes.slice?_append (startMarker :: (requestHeader command version address ++
      lengthText payload.length.toUInt16)) payload _

/-- The parts of a request can be told from its frame. -/
theorem ReadsBack.unique (first : ReadsBack command version address payload frame)
    (second : ReadsBack command' version' address' payload' frame) :
    command' = command ∧ version' = version ∧ address' = address ∧ payload' = payload := by
  have size : payload'.length = payload.length := second.announced_eq.symm.trans first.announced_eq
  have payloads := second.payload_eq
  rw [size, first.payload_eq] at payloads
  refine ⟨Command.code_inj ?_, Version.bytes_inj ?_, Address.bytes_inj ?_, ?_⟩
  · exact Option.some.inj (second.code_eq.symm.trans first.code_eq)
  · exact Option.some.inj (second.version_eq.symm.trans first.version_eq)
  · exact Option.some.inj (second.address_eq.symm.trans first.address_eq)
  · exact (Option.some.inj payloads).symm

/-- What was built is read back. -/
theorem readsBack_of_request {capacity : Nat}
    (built : request? capacity command version address payload = .ok frame) :
    ReadsBack command version address payload frame := by
  obtain ⟨⟨short, -⟩, rfl⟩ := request?_eq_ok_iff.1 built
  exact readsBack_sealed command version address short

/-- **A request is built exactly if it fits, and is then read back as it was given.** It fits if
LENGTH can announce its payload and the room holds the whole frame; if not, that is an overflow,
which is seen before anything is put into the frame. So building stops at nothing else: no piece
lacks room, and no access is out of range. What is built is one intact frame that nothing trails, in
which version, address, command, length and payload are those given. Two requests have one frame
only if they are the same request. -/
theorem request_reads_back (capacity : Nat) (command : Command) (version : Version)
    (address : Address) (payload : Bytes) :
    Guarded.build capacity command version address payload =
        some (request? capacity command version address payload) ∧
      ((∃ frame, request? capacity command version address payload = .ok frame) ↔
        payload.length ≤ 4095 ∧ payload.length + 18 ≤ capacity) ∧
      (∀ error, request? capacity command version address payload = .error error →
        error = .overflow) ∧
      ∀ frame, request? capacity command version address payload = .ok frame →
        ReadsBack command version address payload frame ∧
        ∀ capacity' command' version' address' payload',
          request? capacity' command' version' address' payload' = .ok frame →
            command' = command ∧ version' = version ∧ address' = address ∧ payload' = payload := by
  refine ⟨Guarded.build_eq capacity command version address payload, ?_, ?_, ?_⟩
  · constructor
    · rintro ⟨frame, built⟩
      exact (request?_eq_ok_iff.1 built).1
    · intro fits
      exact ⟨_, request?_eq_ok_iff.2 ⟨fits, rfl⟩⟩
  · intro error refused
    unfold request? at refused
    split at refused
    · cases refused
    · exact (Except.error.inj refused).symm
  · intro frame built
    have back := readsBack_of_request built
    exact ⟨back, fun _ _ _ _ _ other => back.unique (readsBack_of_request other)⟩

end Frame

end UpsTelemetry
