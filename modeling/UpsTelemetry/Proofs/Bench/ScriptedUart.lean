import UpsTelemetry.Bench.ScriptedUart
import UpsTelemetry.Proofs.Link.Stream

/-!
# What a scripted UART delivers

A script whose input is a list of pieces delivers their bytes, however the reads cut them further,
and then ends as the event behind them says (`delivers_pieces`, and `delivers_chunks` if there is
none). `ScriptedUart.answering` is the plain script of one answer: there is no stale input, the
request is taken whole, and flushing it releases the pieces.
-/

namespace UpsTelemetry.ScriptedUart

/-- What stands behind the last piece of a script, and how it makes a read come out. -/
inductive Ends : List InputEvent → Except FaultKind Unit → Prop
  /-- There is nothing more, and the read fails for want of data. -/
  | dry : Ends [] (.error .other)
  /-- The read brings nothing. -/
  | nothing (rest : List InputEvent) : Ends (.nothing :: rest) (.ok ())
  /-- The read fails. -/
  | fail (kind : FaultKind) (rest : List InputEvent) : Ends (.fail kind :: rest) (.error kind)

/-- Behind the last piece a read comes out as the end of the script says. -/
theorem Ends.read_eq {behind : List InputEvent} {final : Except FaultKind Unit}
    (ends : Ends behind final) {uart : ScriptedUart} (input : uart.input = behind) (room : Nat) :
    (read room uart).1 = final.map fun _ => [] := by
  unfold read
  rw [input]
  cases ends <;> rfl

/-- Input in pieces delivers the bytes of the pieces, and then ends as the script says. -/
theorem delivers_pieces {chunks : List Bytes} (nonempty : ∀ chunk ∈ chunks, chunk ≠ [])
    {behind : List InputEvent} {final : Except FaultKind Unit} (ends : Ends behind final)
    {uart : ScriptedUart} (input : uart.input = chunks.map .chunk ++ behind) :
    Delivers final chunks.flatten uart := by
  -- By induction on the number of bytes. A read takes some of the first piece, or all of it.
  induction count : chunks.flatten.length using Nat.strong_induction_on
    generalizing chunks uart with
  | _ count ih =>
    cases chunks with
    | nil => exact .dry fun room _ => ends.read_eq input room
    | cons chunk rest =>
      have here : 0 < chunk.length :=
        List.length_pos_iff.2 (nonempty chunk List.mem_cons_self)
      have later : ∀ chunk ∈ rest, chunk ≠ [] :=
        fun chunk mem => nonempty chunk (List.mem_cons_of_mem _ mem)
      have reads : ∀ room, Uart.read room uart = (.ok (chunk.take room),
          { uart with input := if chunk.length ≤ room then rest.map .chunk ++ behind
            else .chunk (chunk.drop room) :: (rest.map .chunk ++ behind) }) := by
        intro room
        change read room uart = _
        unfold read
        rw [input]
        rfl
      rw [List.flatten_cons, List.length_append] at count
      rw [List.flatten_cons]
      refine .piece (fun room => min room chunk.length) (fun room some => ?_) (fun room _ => ?_)
        (fun room _ => ?_) (fun room some => ?_)
      · exact lt_min some here
      · rw [List.length_append]
        omega
      · rw [reads, List.take_append_of_le_length (Nat.min_le_right _ _), ← List.take_take,
          List.take_length]
      · rw [reads]
        by_cases whole : chunk.length ≤ room
        · rw [Nat.min_eq_right whole, List.drop_left]
          exact ih _ (by omega) later (if_pos whole) rfl
        · rw [Nat.min_eq_left (by omega), List.drop_append_of_le_length (by omega)]
          have left : 0 < (chunk.drop room).length := by
            rw [List.length_drop]
            omega
          have pieces : ∀ piece ∈ chunk.drop room :: rest, piece ≠ [] :=
            List.forall_mem_cons.2 ⟨List.length_pos_iff.1 left, later⟩
          refine ih _ ?_ pieces (if_neg whole) rfl
          rw [List.flatten_cons, List.length_append, List.length_drop]
          omega

/-- Input in pieces and nothing else delivers the bytes of the pieces, and then fails for want of
data. -/
theorem delivers_chunks {chunks : List Bytes} (nonempty : ∀ chunk ∈ chunks, chunk ≠ [])
    {uart : ScriptedUart} (input : uart.input = chunks.map .chunk) :
    Delivers (.error .other) chunks.flatten uart :=
  delivers_pieces nonempty .dry (by rw [input, List.append_nil])

/-! ## One answer -/

/-- The script of one answer, in pieces. -/
def answering (chunks : List Bytes) : ScriptedUart :=
  { replies := [chunks.map .chunk] }

/-- A port that answers only when asked has nothing to drain. -/
theorem drain_answering (chunks : List Bytes) :
    SerialLink.drain (answering chunks) = (.ok (), answering chunks) := by
  apply SerialLink.drain_quiet
  rfl

/-- A request is taken whole. -/
theorem writeAll_answering (chunks : List Bytes) (request : Bytes) :
    Uart.writeAll request (answering chunks) =
      (.ok (), { answering chunks with written := request }) := by
  cases request with
  | nil => rw [Uart.writeAll]; rfl
  | cons byte rest => exact Uart.writeAll_of_whole (List.cons_ne_nil _ _) rfl

/-- Once a request has gone out, the answer is there. -/
theorem transmit_answering (chunks : List Bytes) (request : Bytes) :
    SerialLink.transmit request (answering chunks) =
      (.ok request.length, { input := chunks.map .chunk, written := request }) := by
  unfold SerialLink.transmit
  rw [writeAll_answering]
  rfl

end UpsTelemetry.ScriptedUart
