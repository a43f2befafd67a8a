import Mathlib.Algebra.Ring.Nat
import Mathlib.Data.List.Induction
import UpsTelemetry.Link.Serial

/-!
# What a serial link receives

A UART hands over the bytes of a stream in pieces, and where it cuts them is its own affair. Here
is said what a UART has to give (`Delivers`), and what of it a receive takes: the stream up to its
first end marker, as far as there is room (`collect_of_delivers`). The cuts do not matter. Whatever
a UART gives, no end marker is received before the last byte (`SerialLink.collect_ends`).

A stream that comes to its end before a frame does ends the reply, or the whole receive if the UART
then has a fault that is more than a lack of data (`SerialLink.outcomeAt`).
-/

namespace UpsTelemetry

/-! ## Parts of a stream -/

/-- The bytes of a stream up to the first end marker, or all if there is none. -/
def upToEnd : Bytes → Bytes
  | [] => []
  | byte :: rest => if byte = Frame.endMarker then [byte] else byte :: upToEnd rest

/-- What is kept of a stream is its beginning. -/
theorem isPrefix_upToEnd (stream : Bytes) : upToEnd stream <+: stream := by
  induction stream with
  | nil => exact List.nil_prefix
  | cons byte rest ih =>
    unfold upToEnd
    split
    · rw [List.cons_prefix_cons]
      exact ⟨rfl, List.nil_prefix⟩
    · rw [List.cons_prefix_cons]
      exact ⟨rfl, ih⟩

/-- A piece with an end marker in it has the first end of the stream. -/
theorem upToEnd_append_of_idxOf? {piece : Bytes} {position : Nat}
    (found : piece.idxOf? Frame.endMarker = some position) (rest : Bytes) :
    position < piece.length ∧ upToEnd (piece ++ rest) = piece.take (position + 1) := by
  induction piece generalizing position with
  | nil => simp at found
  | cons byte more ih =>
    rw [List.cons_append, upToEnd]
    rw [List.idxOf?_cons] at found
    by_cases here : byte = Frame.endMarker
    · rw [if_pos (by simpa using here)] at found
      obtain rfl := Option.some.inj found
      rw [if_pos here]
      exact ⟨Nat.zero_lt_succ _, rfl⟩
    · rw [if_neg (by simpa using here)] at found
      obtain ⟨later, foundLater, rfl⟩ := Option.map_eq_some_iff.1 found
      obtain ⟨inside, same⟩ := ih foundLater
      rw [if_neg here, same]
      exact ⟨Nat.succ_lt_succ inside, rfl⟩

/-- A piece without an end marker leaves the end of the stream to the rest. -/
theorem upToEnd_append_of_not_mem {piece : Bytes} (absent : Frame.endMarker ∉ piece)
    (rest : Bytes) : upToEnd (piece ++ rest) = piece ++ upToEnd rest := by
  induction piece with
  | nil => rfl
  | cons byte more ih =>
    rw [List.mem_cons, not_or] at absent
    rw [List.cons_append, upToEnd, if_neg (Ne.symm absent.1), ih absent.2, List.cons_append]

/-- The bytes up to the first end marker have none before it. -/
theorem endMarker_not_mem_upToEnd (stream : Bytes) :
    Frame.endMarker ∉ (upToEnd stream).dropLast := by
  induction stream with
  | nil => nofun
  | cons byte rest ih =>
    rw [upToEnd]
    split
    · nofun
    · next other =>
      intro mem
      cases ended : upToEnd rest with
      | nil =>
        rw [ended] at mem
        cases mem
      | cons next more =>
        rw [ended] at mem ih
        rcases List.mem_cons.1 mem with first | later
        · exact other first.symm
        · exact ih later

/-! ## Receive buffers -/

namespace ReceiveBuffer

variable {size : Nat}

/-- What was received stays when more is received behind it. -/
theorem received_overwrite (buffer : ReceiveBuffer size) {start : Nat} {chunk : Bytes}
    (fits : start + chunk.length ≤ size) {count : Nat} (inside : count ≤ chunk.length) :
    (buffer.overwrite start chunk).received (start + count) =
      buffer.received start ++ chunk.take count := by
  have length_front : (buffer.contents.take start).length = start := by
    rw [List.length_take, buffer.length_contents]
    omega
  unfold received overwrite
  rw [List.take_take, Nat.min_eq_left (by omega), List.append_assoc, List.take_append,
    List.take_of_length_le (by omega), length_front, Nat.add_sub_cancel_left,
    List.take_append_of_le_length inside]

end ReceiveBuffer

/-! ## Streams -/

variable {υ ε : Type} [Uart υ ε]

/-- A UART has just these bytes to give, in pieces of any size, and no room makes it give nothing
before they are used up. After that every read ends as `final` says: it brings nothing, or it
fails. -/
inductive Delivers (final : Except ε Unit) : Bytes → υ → Prop
  /-- There is nothing left to give. -/
  | dry {uart : υ}
      (reads : ∀ room, 0 < room → (Uart.read room uart).1 = final.map fun _ => []) :
      Delivers final [] uart
  /-- The next read brings a piece, which may depend on the room, and the rest is left. -/
  | piece {stream : Bytes} {uart : υ} (size : Nat → Nat)
      (brings : ∀ room, 0 < room → 0 < size room)
      (there : ∀ room, 0 < room → size room ≤ stream.length)
      (reads : ∀ room, 0 < room → (Uart.read room uart).1 = .ok (stream.take (size room)))
      (rest : ∀ room, 0 < room →
        Delivers final (stream.drop (size room)) (Uart.read room uart).2) :
      Delivers final stream uart

/-! ## Steps of a write -/

namespace Uart

variable {uart after : υ} {bytes : Bytes}

/-- After a write that is accepted in part, the rest is written. -/
theorem writeAll_of_part (nonempty : bytes ≠ []) {count : Nat}
    (accepts : Uart.write bytes uart = (.ok count, after)) :
    writeAll bytes uart = writeAll (bytes.drop count) after := by
  obtain ⟨byte, rest, rfl⟩ := List.exists_cons_of_ne_nil nonempty
  rw [writeAll]
  split
  · next offered => rw [accepts] at offered; cases offered
  · next offered => rw [accepts] at offered; cases offered; rfl

/-- A write that is accepted whole is all of it. -/
theorem writeAll_of_whole (nonempty : bytes ≠ [])
    (accepts : Uart.write bytes uart = (.ok bytes.length, after)) :
    writeAll bytes uart = (.ok (), after) := by
  rw [writeAll_of_part nonempty accepts, List.drop_length, writeAll]

/-- A write that fails at once is the end of it. -/
theorem writeAll_of_error (nonempty : bytes ≠ []) {fault : ε}
    (refuses : Uart.write bytes uart = (.error fault, after)) :
    writeAll bytes uart = (.error fault, after) := by
  obtain ⟨byte, rest, rfl⟩ := List.exists_cons_of_ne_nil nonempty
  rw [writeAll]
  split
  · next offered => rw [refuses] at offered; cases offered; rfl
  · next offered => rw [refuses] at offered; cases offered

end Uart

namespace SerialLink

variable [Fault ε]

/-- What receiving comes to if the stream is used up after `count` bytes. -/
def outcomeAt (final : Except ε Unit) (count : Nat) : Except ε Nat :=
  match final with
  | .ok () => .ok count
  | .error fault => if (Fault.kind fault).endsData then .ok count else .error fault

/-- Whether a stream fills the room, or ends within it. -/
def Completes (stream : Bytes) (room : Nat) : Prop :=
  room ≤ stream.length ∨ Frame.endMarker ∈ stream.take room

/-- A piece that fits and has the end marker completes a frame, whatever follows. -/
theorem completes_append_of_mem {piece : Bytes} {room : Nat} (ends : Frame.endMarker ∈ piece)
    (fits : piece.length ≤ room) (rest : Bytes) : Completes (piece ++ rest) room := by
  right
  rw [List.take_append, List.take_of_length_le fits]
  exact List.mem_append_left _ ends

/-- After a piece that fits and has no end marker it is up to the rest, in the room that is left. -/
theorem completes_append_iff {piece : Bytes} {room : Nat} (goesOn : Frame.endMarker ∉ piece)
    (fits : piece.length ≤ room) {rest : Bytes} :
    Completes (piece ++ rest) room ↔ Completes rest (room - piece.length) := by
  unfold Completes
  rw [List.take_append, List.take_of_length_le fits, List.mem_append, List.length_append,
    Nat.sub_le_iff_le_add']
  simp only [goesOn, false_or]

/-! ## Steps of a drain -/

section drain

variable [FiniteInput υ] {uart : υ}

/-- If nothing is waiting, there is nothing to throw away. -/
theorem drain_quiet {after : υ} (asked : Uart.readReady uart = (.ok false, after)) :
    drain uart = (.ok (), after) := by
  rw [drain]
  split
  · next failed => rw [asked] at failed; cases failed
  · next quiet => rw [asked] at quiet; cases quiet; rfl
  · next ready => rw [asked] at ready; cases ready

/-- What can be read is thrown away, and then the rest. -/
theorem drain_piece {ready after : υ} (asked : Uart.readReady uart = (.ok true, ready))
    {byte : UInt8} {rest : Bytes}
    (read : Uart.read scratchSize ready = (.ok (byte :: rest), after)) :
    drain uart = drain after := by
  rw [drain]
  split
  · next failed => rw [asked] at failed; cases failed
  · next quiet => rw [asked] at quiet; cases quiet
  · next ready' =>
    rw [asked] at ready'
    cases ready'
    split
    · next nothing => rw [read] at nothing; cases nothing
    · next came => rw [read] at came; cases came; rfl
    · next failed => rw [read] at failed; cases failed

end drain

/-! ## Steps of a receive -/

section collect

variable {size count : Nat} {buffer : ReceiveBuffer size} {uart : υ}

/-- With a full buffer collecting ends. -/
theorem collect_full (full : ¬ count < size) :
    collect buffer count uart = (.ok count, buffer, uart) := by
  rw [collect, if_neg full]

/-- A read that brings nothing, or fails, ends the receive. -/
theorem collect_dry (room : count < size) {final : Except ε Unit}
    (read : (Uart.read (size - count) uart).1 = final.map fun _ => []) :
    collect buffer count uart =
      (outcomeAt final count, buffer, (Uart.read (size - count) uart).2) := by
  rw [collect, if_pos room, ← Prod.eta (Uart.read (size - count) uart), read]
  cases final with
  | ok _ => rfl
  | error fault =>
    change (if (Fault.kind fault).endsData then _ else _) = _
    unfold outcomeAt
    dsimp only
    split <;> rfl

/-- A piece is stored, and collecting ends behind its end marker if it has one. -/
theorem collect_piece (room : count < size) {piece : Bytes} (nonempty : piece ≠ [])
    (read : (Uart.read (size - count) uart).1 = .ok piece) :
    collect buffer count uart =
      match piece.idxOf? Frame.endMarker with
      | some position => (.ok (count + position + 1), buffer.overwrite count piece,
          (Uart.read (size - count) uart).2)
      | none => collect (buffer.overwrite count piece) (count + piece.length)
          (Uart.read (size - count) uart).2 := by
  obtain ⟨byte, rest, rfl⟩ := List.exists_cons_of_ne_nil nonempty
  rw [collect, if_pos room]
  generalize Uart.read (size - count) uart = result at read ⊢
  obtain ⟨outcome, uart'⟩ := result
  obtain rfl : outcome = .ok (byte :: rest) := read
  rfl

/-- A property of the UART that reading keeps is kept by a receive. -/
theorem collect_keeps (keeps : υ → Prop)
    (read : ∀ room uart, keeps uart → keeps (Uart.read room uart).2)
    (buffer : ReceiveBuffer size) (count : Nat) (kept : keeps uart) :
    keeps (collect buffer count uart).2.2 := by
  -- By induction on the room left.
  induction left : size - count using Nat.strong_induction_on generalizing buffer count uart with
  | _ left ih =>
    subst left
    by_cases room : count < size
    swap
    · rw [collect_full room]
      exact kept
    have kept' := read (size - count) uart kept
    by_cases dry : ∃ final : Except ε Unit,
        (Uart.read (size - count) uart).1 = final.map fun _ => []
    · obtain ⟨final, dry⟩ := dry
      rw [collect_dry room dry]
      exact kept'
    obtain ⟨piece, came, nonempty⟩ : ∃ piece,
        (Uart.read (size - count) uart).1 = .ok piece ∧ piece ≠ [] := by
      cases came : (Uart.read (size - count) uart).1 with
      | error fault => exact absurd ⟨.error fault, came⟩ dry
      | ok piece =>
        refine ⟨piece, rfl, ?_⟩
        rintro rfl
        exact dry ⟨.ok (), came⟩
    rw [collect_piece room nonempty came]
    split
    · exact kept'
    · have grows := List.length_pos_iff.2 nonempty
      exact ih _ (by omega) _ _ kept' rfl

/-- A receive that goes on behind bytes without an end marker ends with the first one that comes. -/
theorem collect_ends (buffer : ReceiveBuffer size) (count : Nat) (uart : υ)
    (absent : Frame.endMarker ∉ buffer.received count) (inside : count ≤ size) :
    ∀ got, (collect buffer count uart).1 = .ok got →
      Frame.endMarker ∉ ((collect buffer count uart).2.1.received got).dropLast := by
  have kept {buffer : ReceiveBuffer size} {count got : Nat}
      (absent : Frame.endMarker ∉ buffer.received count)
      (reported : (Except.ok count : Except ε Nat) = .ok got) :
      Frame.endMarker ∉ (buffer.received got).dropLast := by
    obtain rfl := Except.ok.inj reported
    exact fun mem => absent (List.dropLast_subset _ mem)
  fun_induction collect buffer count uart with
  | case1 => exact fun got => kept absent
  | case4 => exact fun got => kept absent
  | case6 => exact fun got => kept absent
  | case5 => nofun
  | case2 buffer count uart room byte rest uart' read buffer' position found =>
    have fits := Uart.length_read_le (congrArg Prod.fst read)
    obtain ⟨before, ended⟩ := upToEnd_append_of_idxOf? found []
    rintro got ⟨⟩
    have front : buffer'.received (count + (position + 1)) =
        buffer.received count ++ upToEnd (byte :: rest ++ []) := by
      rw [ended]
      exact buffer.received_overwrite (by omega) before
    show Frame.endMarker ∉ (buffer'.received (count + (position + 1))).dropLast
    rw [front, List.dropLast_append]
    split
    · exact fun mem => absent (List.dropLast_subset _ mem)
    · exact fun mem => (List.mem_append.1 mem).elim absent (endMarker_not_mem_upToEnd _)
  | case3 buffer count uart room byte rest uart' read buffer' found ih =>
    have fits := Uart.length_read_le (congrArg Prod.fst read)
    have front : buffer'.received (count + (byte :: rest).length) =
        buffer.received count ++ (byte :: rest) := by
      have whole : count + (byte :: rest).length ≤ size := by omega
      rw [buffer.received_overwrite whole (Nat.le_refl _), List.take_length]
    refine ih ?_ (by omega)
    rw [front]
    exact fun mem => (List.mem_append.1 mem).elim absent (List.idxOf?_eq_none_iff.1 found)

end collect

/-! ## Whole receives -/

/-- The bytes of a stream that a receive takes if there is so much room: up to the first end marker,
as far as they fit. -/
def taken (stream : Bytes) (room : Nat) : Bytes :=
  (upToEnd stream).take room

/-- What a receive comes to that has `count` bytes in the buffer and the stream before it. -/
structure Takes (final : Except ε Unit) (stream : Bytes) {size : Nat} (buffer : ReceiveBuffer size)
    (count : Nat) (result : Except ε Nat × ReceiveBuffer size × υ) : Prop where
  /-- The bytes taken stand behind those that were there. -/
  received_eq : result.2.1.received (count + (taken stream (size - count)).length) =
    buffer.received count ++ taken stream (size - count)
  /-- With a whole frame, or a full buffer, the receive reports the bytes. -/
  completed : Completes stream (size - count) →
    result.1 = .ok (count + (taken stream (size - count)).length)
  /-- With less, the end of the stream decides. -/
  ended : ¬ Completes stream (size - count) →
    result.1 = outcomeAt final (count + (taken stream (size - count)).length)

/-- Nothing is taken of an empty stream. -/
@[simp] theorem taken_nil (room : Nat) : taken [] room = [] := List.take_nil

/-- What is taken of a stream is its beginning. -/
theorem isPrefix_taken (stream : Bytes) (room : Nat) : taken stream room <+: stream :=
  (List.take_prefix _ _).trans (isPrefix_upToEnd stream)

omit [Uart υ ε] in
/-- A receive that comes out well reports the bytes that it took. -/
theorem Takes.of_ok {final : Except ε Unit} {stream : Bytes} {size count got : Nat}
    {buffer : ReceiveBuffer size} {result : Except ε Nat × ReceiveBuffer size × υ}
    (takes : Takes final stream buffer count result) (ok : result.1 = .ok got) :
    got = count + (taken stream (size - count)).length := by
  by_cases complete : Completes stream (size - count)
  · rw [takes.completed complete] at ok
    exact (Except.ok.inj ok).symm
  · rw [takes.ended complete] at ok
    unfold outcomeAt at ok
    split at ok
    · exact (Except.ok.inj ok).symm
    · split at ok
      · exact (Except.ok.inj ok).symm
      · cases ok

section takes

variable {final : Except ε Unit} {size count : Nat} {buffer : ReceiveBuffer size} {uart : υ}

/-- A full buffer takes nothing. -/
theorem takes_of_full (full : ¬ count < size) (stream : Bytes) :
    Takes final stream buffer count (collect buffer count uart) := by
  have noRoom : size - count = 0 := by omega
  have nothing : taken stream (size - count) = [] := by
    unfold taken
    rw [noRoom, List.take_zero]
  rw [collect_full full]
  refine ⟨?_, fun _ => ?_, fun incomplete => absurd (.inl ?_) incomplete⟩
  · rw [nothing, List.append_nil]
    rfl
  · rw [nothing]
    rfl
  · omega

/-- From a stream that is used up nothing is taken. -/
theorem takes_of_dry (room : count < size)
    (read : (Uart.read (size - count) uart).1 = final.map fun _ => []) :
    Takes final [] buffer count (collect buffer count uart) := by
  have incomplete : ¬ Completes [] (size - count) := by
    rintro (fills | ends)
    · rw [List.length_nil] at fills
      omega
    · simp at ends
  rw [collect_dry room read]
  refine ⟨?_, fun completes => absurd completes incomplete, fun _ => ?_⟩
  · rw [taken_nil, List.append_nil]
    rfl
  · rw [taken_nil]
    rfl

variable {piece rest : Bytes}

/-- A piece with an end marker in it is taken up to there, and the receive is over. -/
theorem takes_of_end (room : count < size) (fits : piece.length ≤ size - count)
    (read : (Uart.read (size - count) uart).1 = .ok piece) {position : Nat}
    (found : piece.idxOf? Frame.endMarker = some position) :
    Takes final (piece ++ rest) buffer count (collect buffer count uart) := by
  obtain ⟨inside, upTo⟩ := upToEnd_append_of_idxOf? found rest
  have ends : Frame.endMarker ∈ piece := by
    by_contra absent
    rw [List.idxOf?_eq_none_iff.2 absent] at found
    cases found
  have took : taken (piece ++ rest) (size - count) = piece.take (position + 1) := by
    unfold taken
    rw [upTo, List.take_take, Nat.min_eq_right (by omega)]
  have length_took : (piece.take (position + 1)).length = position + 1 := by
    rw [List.length_take, Nat.min_eq_left inside]
  have completes := completes_append_of_mem ends fits rest
  rw [collect_piece room (List.ne_nil_of_mem ends) read, found]
  refine ⟨?_, fun _ => ?_, fun incomplete => absurd completes incomplete⟩
  · rw [took, length_took, buffer.received_overwrite (by omega) inside]
  · rw [took, length_took]
    rfl

/-- A piece without an end marker is taken whole, and the receive goes on. -/
theorem takes_of_goesOn (room : count < size) (nonempty : piece ≠ [])
    (fits : piece.length ≤ size - count)
    (read : (Uart.read (size - count) uart).1 = .ok piece)
    (goesOn : Frame.endMarker ∉ piece)
    (later : Takes final rest (buffer.overwrite count piece) (count + piece.length)
      (collect (buffer.overwrite count piece) (count + piece.length)
        (Uart.read (size - count) uart).2)) :
    Takes final (piece ++ rest) buffer count (collect buffer count uart) := by
  have left : size - (count + piece.length) = size - count - piece.length := by omega
  have took : taken (piece ++ rest) (size - count) =
      piece ++ taken rest (size - (count + piece.length)) := by
    unfold taken
    rw [upToEnd_append_of_not_mem goesOn, List.take_append, List.take_of_length_le fits, left]
  have front : (buffer.overwrite count piece).received (count + piece.length) =
      buffer.received count ++ piece := by
    rw [buffer.received_overwrite (by omega) (Nat.le_refl _), List.take_length]
  have completes : Completes (piece ++ rest) (size - count) ↔
      Completes rest (size - (count + piece.length)) := by
    rw [left]
    exact completes_append_iff goesOn fits
  rw [collect_piece room nonempty read, List.idxOf?_eq_none_iff.2 goesOn]
  refine ⟨?_, fun complete => ?_, fun incomplete => ?_⟩
  · rw [took, List.length_append, ← Nat.add_assoc, later.received_eq, front, List.append_assoc]
  · rw [took, List.length_append, ← Nat.add_assoc]
    exact later.completed (completes.1 complete)
  · rw [took, List.length_append, ← Nat.add_assoc]
    exact later.ended fun complete => incomplete (completes.2 complete)

end takes

/-- Whatever the pieces, what is received is the stream up to its first end marker, as far as there
is room. -/
theorem takes_of_delivers {final : Except ε Unit} {stream : Bytes} {uart : υ}
    (delivers : Delivers final stream uart) {size : Nat} (buffer : ReceiveBuffer size)
    (count : Nat) : Takes final stream buffer count (collect buffer count uart) := by
  -- By induction on the pieces: each is received behind what came before it.
  induction delivers generalizing count buffer with
  | @dry uart reads =>
    by_cases room : count < size
    · exact takes_of_dry room (reads _ (by omega))
    · exact takes_of_full room []
  | @piece stream uart pieceSize brings there reads rest ih =>
    by_cases room : count < size
    swap
    · exact takes_of_full room stream
    have open_ : 0 < size - count := by omega
    have read := reads _ open_
    have fits := Uart.length_read_le read
    have nonempty : stream.take (pieceSize (size - count)) ≠ [] := by
      refine List.ne_nil_of_length_pos ?_
      rw [List.length_take, Nat.min_eq_left (there _ open_)]
      exact brings _ open_
    rw [← List.take_append_drop (pieceSize (size - count)) stream]
    cases found : (stream.take (pieceSize (size - count))).idxOf? Frame.endMarker with
    | some position => exact takes_of_end room fits read found
    | none =>
      exact takes_of_goesOn room nonempty fits read (List.idxOf?_eq_none_iff.1 found)
        (ih _ open_ _ _)

end SerialLink

end UpsTelemetry
