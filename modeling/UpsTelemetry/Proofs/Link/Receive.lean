import Mathlib.Data.List.Basic
import UpsTelemetry.Proofs.Bench.ScriptedUart

/-!
# A receive is a matter of the stream

A serial link reads until it has an end marker, a full buffer, or no more data. What it then has,
and what it reports, is a matter of the stream that the UART delivers and of the room for it. It
does not matter where the UART cuts the stream, or what comes behind the part that is received.

* `SerialLink.collectWithin_eq`: as many reads are enough as there are bytes of room.
* `SerialLink.completes_iff`, `SerialLink.length_taken`, `SerialLink.taken_of_not_completes`: what
  is received, counted in the stream.
* `SerialLink.receive_of_stream`: the main statement.
-/

namespace UpsTelemetry

open UpsTelemetry.Frame (endMarker)

/-! ## Counting in a stream -/

/-- Without an end marker nothing is cut off. -/
theorem upToEnd_of_not_mem {stream : Bytes} (absent : endMarker ∉ stream) :
    upToEnd stream = stream := by
  have whole := upToEnd_append_of_not_mem absent []
  rwa [upToEnd, List.append_nil] at whole

/-- What is kept ends with the first end marker, if there is one. -/
theorem length_upToEnd (stream : Bytes) :
    (upToEnd stream).length =
      match stream.idxOf? endMarker with
      | some position => position + 1
      | none => stream.length := by
  cases found : stream.idxOf? endMarker with
  | some position =>
    obtain ⟨inside, upTo⟩ := upToEnd_append_of_idxOf? found []
    rw [List.append_nil] at upTo
    rw [upTo, List.length_take, Nat.min_eq_left inside]
  | none => rw [upToEnd_of_not_mem (List.idxOf?_eq_none_iff.1 found)]

namespace SerialLink

/-- A stream fills the room or ends within it, if it is long enough or has an end marker at all. -/
theorem completes_iff {stream : Bytes} {room : Nat} :
    Completes stream room ↔ room ≤ stream.length ∨ endMarker ∈ stream := by
  constructor
  · exact Or.imp_right List.mem_of_mem_take
  · rintro (fills | ends)
    · exact .inl fills
    · rcases Nat.le_total room stream.length with fills | short
      · exact .inl fills
      · exact .inr (by rwa [List.take_of_length_le short])

/-- Of a stream that fills the room or ends within it, the bytes up to the end marker are taken, if
there is one, as far as there is room. -/
theorem length_taken {stream : Bytes} {room : Nat} (completes : Completes stream room) :
    (taken stream room).length =
      match stream.idxOf? endMarker with
      | some position => min room (position + 1)
      | none => room := by
  rw [taken, List.length_take, length_upToEnd]
  cases found : stream.idxOf? endMarker with
  | some position => rfl
  | none =>
    have absent : endMarker ∉ stream := List.idxOf?_eq_none_iff.1 found
    exact Nat.min_eq_left ((completes_iff.1 completes).resolve_right absent)

/-- A stream that ends too early is taken whole. -/
theorem taken_of_not_completes {stream : Bytes} {room : Nat}
    (incomplete : ¬ Completes stream room) : taken stream room = stream := by
  rw [completes_iff, not_or, Nat.not_le] at incomplete
  rw [taken, upToEnd_of_not_mem incomplete.2, List.take_of_length_le (Nat.le_of_lt incomplete.1)]

variable {υ ε : Type} [Fault ε] [Uart υ ε]

/-! ## Counting reads -/

/-- Reads on as `collect` does, but with at most so many reads. There is no result if more are
needed. -/
def collectWithin {size : Nat} (reads : Nat) (buffer : ReceiveBuffer size) (count : Nat)
    (uart : υ) : Option (Except ε Nat × ReceiveBuffer size × υ) :=
  if count < size then
    match reads with
    | 0 => none
    | reads + 1 =>
      match Uart.read (size - count) uart with
      | (.ok [], uart') => some (.ok count, buffer, uart')
      | (.ok (byte :: rest), uart') =>
        let buffer' := buffer.overwrite count (byte :: rest)
        match (byte :: rest).idxOf? endMarker with
        | some position => some (.ok (count + position + 1), buffer', uart')
        | none => collectWithin reads buffer' (count + (byte :: rest).length) uart'
      | (.error fault, uart') =>
        some (if (Fault.kind fault).endsData then .ok count else .error fault, buffer, uart')
  else some (.ok count, buffer, uart)

/-- As many reads are enough as there are bytes of room: each but the last brings one at least. -/
theorem collectWithin_eq {size reads : Nat} (buffer : ReceiveBuffer size) (count : Nat) (uart : υ)
    (enough : size - count ≤ reads) :
    collectWithin reads buffer count uart = some (collect buffer count uart) := by
  -- By induction on the reads allowed.
  induction reads generalizing buffer count uart with
  | zero =>
    have full : ¬ count < size := by omega
    rw [collectWithin, if_neg full, collect_full full]
  | succ reads ih =>
    rw [collectWithin, collect]
    by_cases room : count < size
    case neg => rw [if_neg room, if_neg room]
    rw [if_pos room, if_pos room]
    obtain ⟨outcome, uart'⟩ := Uart.read (size - count) uart
    cases outcome with
    | error fault =>
      dsimp only
      split <;> rfl
    | ok piece =>
      cases piece with
      | nil => rfl
      | cons byte rest =>
        dsimp only
        cases (byte :: rest).idxOf? endMarker with
        | some position => rfl
        | none =>
          refine ih _ _ _ ?_
          rw [List.length_cons]
          omega

/-! ## Whole receives -/

/-- A fault at the end of a stream is reported, unless it is a lack of data. -/
theorem outcomeAt_error (fault : ε) (count : Nat) :
    outcomeAt (.error fault) count =
      if Fault.kind fault = .other ∨ Fault.kind fault = .timedOut then .ok count
      else .error fault := by
  have ends (kind : FaultKind) : kind.endsData = true ↔ kind = .other ∨ kind = .timedOut := by
    cases kind <;> decide
  simp only [outcomeAt, ends]

/-- A receive into an empty buffer, counted in the stream. -/
theorem collect_of_stream {stream : Bytes} {final : Except ε Unit} {uart : υ}
    (delivers : Delivers final stream uart) {size : Nat} (buffer : ReceiveBuffer size) :
    (Completes stream size →
      (collect buffer 0 uart).1 = .ok (match stream.idxOf? endMarker with
        | some position => min size (position + 1)
        | none => size)) ∧
    (¬ Completes stream size → (collect buffer 0 uart).1 = outcomeAt final stream.length) ∧
    ∀ got, (collect buffer 0 uart).1 = .ok got →
      got ≤ stream.length ∧ (collect buffer 0 uart).2.1.received got = stream.take got := by
  have takes := takes_of_delivers delivers buffer 0
  have kept := isPrefix_taken stream size
  have received := takes.received_eq
  rw [Nat.zero_add, Nat.sub_zero] at received
  refine ⟨fun completes => ?_, fun incomplete => ?_, fun got reported => ?_⟩
  · rw [takes.completed completes, Nat.zero_add, Nat.sub_zero, length_taken completes]
  · rw [takes.ended incomplete, Nat.zero_add, Nat.sub_zero, taken_of_not_completes incomplete]
  · have got_eq := takes.of_ok reported
    rw [Nat.zero_add, Nat.sub_zero] at got_eq
    rw [got_eq, received, ← List.prefix_iff_eq_take.1 kept]
    exact ⟨kept.length_le, List.nil_append _⟩

/-- **What is received is a matter of the stream.** A UART delivers a stream in pieces, cut
anywhere, and then its reads end as `final` says.

A receive comes to its end after at most as many reads as the buffer has bytes. If the stream fills
the buffer or has an end marker, it reports the bytes up to the first end marker as far as there is
room, whatever the UART would have come to later. If not, it reports the whole stream, unless the
UART then has a fault that is more than a lack of data. The bytes reported are the first ones of the
stream.

So another UART that delivers the same stream in other pieces is received alike; it may end in
another way, too, if the stream fills the buffer or has an end marker.

So it is with every UART. A link over one whose input comes to an end receives in just this way,
and leaves the time to the UART. -/
theorem receive_of_stream {stream : Bytes} {final : Except ε Unit} {uart : υ}
    (delivers : Delivers final stream uart) {size : Nat} (buffer : ReceiveBuffer size) :
    let result := collect buffer 0 uart
    (∀ [FiniteInput υ] (timeoutMillis : Nat),
      Link.receive buffer timeoutMillis (SerialLink.mk uart) =
        (result.1, result.2.1, ⟨result.2.2⟩)) ∧
    collectWithin size buffer 0 uart = some result ∧
    (size ≤ stream.length ∨ endMarker ∈ stream →
      result.1 = .ok (match stream.idxOf? endMarker with
        | some position => min size (position + 1)
        | none => size)) ∧
    (stream.length < size → endMarker ∉ stream →
      (final = .ok () → result.1 = .ok stream.length) ∧
      ∀ fault, final = .error fault →
        result.1 = if Fault.kind fault = .other ∨ Fault.kind fault = .timedOut
          then .ok stream.length else .error fault) ∧
    (∀ got, result.1 = .ok got →
      got ≤ stream.length ∧ result.2.1.received got = stream.take got) ∧
    ∀ {υ' : Type} [Uart υ' ε] {final' : Except ε Unit} {uart' : υ'},
      Delivers final' stream uart' → final' = final ∨ size ≤ stream.length ∨ endMarker ∈ stream →
      ∀ buffer' : ReceiveBuffer size,
        let result' := collect buffer' 0 uart'
        result'.1 = result.1 ∧
          ∀ got, result.1 = .ok got → result'.2.1.received got = result.2.1.received got := by
  intro result
  obtain ⟨completed, ended, bytes⟩ := collect_of_stream delivers buffer
  refine ⟨fun _ => rfl, collectWithin_eq buffer 0 uart (Nat.sub_le _ _), ?_, ?_, bytes, ?_⟩
  · exact fun completes => completed (completes_iff.2 completes)
  · intro short absent
    have incomplete : ¬ Completes stream size := fun completes =>
      (completes_iff.1 completes).elim (Nat.not_le.2 short) absent
    have outcome := ended incomplete
    refine ⟨?_, ?_⟩
    · rintro rfl
      exact outcome
    · rintro fault rfl
      exact outcome.trans (outcomeAt_error fault stream.length)
  · intro υ' _ final' uart' delivers' alike buffer' result'
    obtain ⟨completed', ended', bytes'⟩ := collect_of_stream delivers' buffer'
    have outcome : result'.1 = result.1 := by
      by_cases completes : Completes stream size
      · exact (completed' completes).trans (completed completes).symm
      · obtain rfl := alike.resolve_right fun long => completes (completes_iff.2 long)
        exact (ended' completes).trans (ended completes).symm
    refine ⟨outcome, fun got reported => ?_⟩
    exact (bytes' got (outcome.trans reported)).2.trans (bytes got reported).2.symm

/-- A frame in two pieces, with the beginning of another behind it, and in one piece: the line
breaks down behind the first and falls silent behind the second, and it is the same frame. -/
theorem receive_of_stream_of_two_pieces :
    let frame : Bytes := [0x7E, 0x32, 0x31, endMarker]
    let broken : ScriptedUart :=
      { input := [.chunk [0x7E, 0x32], .chunk [0x31, endMarker, 0x7E], .fail .brokenPipe] }
    let silent : ScriptedUart := { input := [.chunk (frame ++ [0x7E]), .nothing] }
    let buffer : ReceiveBuffer 16 := .zeros 16
    let first := Link.receive buffer 1000 (SerialLink.mk broken)
    let second := Link.receive buffer 1000 (SerialLink.mk silent)
    Delivers (.error .brokenPipe) (frame ++ [0x7E]) broken ∧
      Delivers (.ok ()) (frame ++ [0x7E]) silent ∧
      first.1 = .ok 4 ∧ first.2.1.received 4 = frame ∧
      second.1 = .ok 4 ∧ second.2.1.received 4 = frame := by
  intro frame broken silent buffer first second
  have pieces : Delivers (.error .brokenPipe) (frame ++ [0x7E]) broken :=
    @ScriptedUart.delivers_pieces [[0x7E, 0x32], [0x31, endMarker, 0x7E]] (by decide) _ _
      (.fail .brokenPipe []) broken rfl
  have whole : Delivers (.ok ()) (frame ++ [0x7E]) silent :=
    @ScriptedUart.delivers_pieces [[0x7E, 0x32, 0x31, endMarker, 0x7E]] (by decide) _ _
      (.nothing []) silent rfl
  obtain ⟨-, -, completed, -, bytes, alike⟩ := receive_of_stream pieces buffer
  have outcome : first.1 = .ok 4 := completed (by decide)
  obtain ⟨outcome', bytes'⟩ := alike whole (by decide) buffer
  have received := (bytes 4 outcome).2
  exact ⟨pieces, whole, outcome, received, outcome'.trans outcome,
    (bytes' 4 outcome).trans received⟩

end SerialLink

end UpsTelemetry
