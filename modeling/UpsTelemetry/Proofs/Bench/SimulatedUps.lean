import UpsTelemetry.Bench.SimulatedUps
import UpsTelemetry.Driver.Exchange
import UpsTelemetry.Proofs.Link.Stream

/-!
# A serial link to a simulated UPS

As long as its reads do not fail, a simulated UPS lets go of all input that is waiting, however much
there is (`drain_eq`), takes a frame whole or not at all (`transmit_eq`), and hands over the reply
that a frame releases up to its end marker (`collect_eq`).

An exchange over such a link is therefore one of few things, and what was unread before it is none
of them: `exchange_answered` says what it comes to if a reply is prepared, and `exchange_eq_ok` that
it comes to nothing else that is a reply.
-/

namespace UpsTelemetry.SimulatedUps

open SerialLink (drain transmit collect taken)

variable {ups : SimulatedUps} {size : Nat}

/-- A UPS with nothing to read. -/
def discarded (ups : SimulatedUps) : SimulatedUps :=
  { ups with unread := [] }

/-! ## Throwing away input -/

/-- A read that does not fail brings the first bytes that are unread, if there are any. -/
theorem read_eq (reads : ups.readFails = false) (waiting : ups.unread ≠ []) (room : Nat) :
    ups.read room = (.ok (ups.unread.take room), { ups with unread := ups.unread.drop room }) := by
  unfold read
  rw [if_neg (by rw [reads]; exact Bool.false_ne_true), if_neg waiting]

/-- All input is thrown away, and nothing else changes. -/
theorem drain_eq (reads : ups.readFails = false) :
    drain ups = (.ok (), ups.discarded) := by
  -- By induction on what is unread: each piece that is read makes it less.
  induction waits : ups.unread.length using Nat.strong_induction_on generalizing ups with
  | _ count ih =>
    cases unread : ups.unread with
    | nil =>
      have quiet : Uart.readReady ups = (.ok false, ups) := by
        show (Except.ok ups.readReady, ups) = _
        rw [readReady, unread]
        rfl
      rw [SerialLink.drain_quiet quiet, discarded, ← unread]
    | cons byte rest =>
      have asked : Uart.readReady ups = (.ok true, ups) := by
        show (Except.ok ups.readReady, ups) = _
        rw [readReady, unread]
        rfl
      have piece : Uart.read SerialLink.scratchSize ups =
          (.ok (byte :: rest.take 31), { ups with unread := rest.drop 31 }) := by
        show ups.read 32 = _
        rw [read_eq reads (by rw [unread]; exact List.cons_ne_nil _ _), unread]
        rfl
      rw [SerialLink.drain_piece asked piece]
      refine ih (rest.drop 31).length ?_ reads rfl
      rw [← waits, unread, List.length_drop, List.length_cons]
      omega

/-! ## Sending a frame -/

/-- The oldest reply, if there is one, leaves the queue and takes the place of what was unread. -/
theorem release_eq (ups : SimulatedUps) :
    ups.release =
      { ups with unread := ups.replies.head?.getD ups.unread, replies := ups.replies.tail } := by
  obtain ⟨written, writes, unread, replies, writeFails, readFails⟩ := ups
  cases replies with
  | nil => rfl
  | cons reply rest => rfl

/-- Releasing a reply does not change whether writing fails. -/
@[simp] theorem release_writeFails (ups : SimulatedUps) :
    ups.release.writeFails = ups.writeFails := by
  rw [release_eq]

/-- Neither does it change whether reading fails. -/
@[simp] theorem release_readFails (ups : SimulatedUps) :
    ups.release.readFails = ups.readFails := by
  rw [release_eq]

/-- What fits is written, and releases the next reply. -/
theorem write_of_fits {bytes : Bytes} (writes : ups.writeFails = false)
    (fits : ups.written.length + bytes.length ≤ writtenCapacity) :
    ups.write bytes = (.ok bytes.length,
      ({ ups with written := ups.written ++ bytes, writes := ups.writes + 1 } :
        SimulatedUps).release) := by
  unfold write
  rw [if_neg (by rw [writes]; exact Bool.false_ne_true), if_neg (Nat.not_lt.2 fits)]

/-- What was written did fit. -/
theorem fits_of_write {bytes : Bytes} {count : Nat} (written : (ups.write bytes).1 = .ok count) :
    ups.writeFails = false ∧ ups.written.length + bytes.length ≤ writtenCapacity := by
  unfold write at written
  split at written
  · cases written
  · next works =>
    split at written
    · cases written
    · next fits => exact ⟨Bool.eq_false_iff.2 works, Nat.not_lt.1 fits⟩

/-- A write is refused and changes nothing, or is taken whole and releases a reply. -/
theorem write_cases (bytes : Bytes) (ups : SimulatedUps) :
    (∃ fault, ups.write bytes = (.error fault, ups)) ∨
      ups.written.length + bytes.length ≤ writtenCapacity ∧
        ups.write bytes = (.ok bytes.length,
          ({ ups with written := ups.written ++ bytes, writes := ups.writes + 1 } :
            SimulatedUps).release) := by
  by_cases works : ups.writeFails = false
  · by_cases fits : ups.written.length + bytes.length ≤ writtenCapacity
    · exact .inr ⟨fits, write_of_fits works fits⟩
    · left
      refine ⟨.overflow, ?_⟩
      simp [write, works, Nat.not_le.1 fits]
  · left
    refine ⟨.simulated, ?_⟩
    simp [write, works]

/-- Writing has no effect on whether reading fails. -/
theorem write_readFails (bytes : Bytes) (ups : SimulatedUps) :
    (ups.write bytes).2.readFails = ups.readFails := by
  obtain ⟨fault, refused⟩ | ⟨-, done⟩ := write_cases bytes ups
  · rw [refused]
  · rw [done, release_readFails]

/-- A frame is written in one go, and flushing it finds nothing left to do. -/
theorem transmit_eq {frame : Bytes} (nonempty : frame ≠ []) (ups : SimulatedUps) :
    transmit frame ups = ups.write frame := by
  unfold transmit
  cases result : ups.write frame with
  | mk outcome after =>
    cases outcome with
    | error fault => rw [Uart.writeAll_of_error nonempty result]
    | ok count =>
      obtain ⟨works, fits⟩ := fits_of_write (congrArg Prod.fst result)
      have whole := write_of_fits works fits
      rw [whole] at result
      cases result
      rw [Uart.writeAll_of_whole nonempty whole]
      have flushed : ∀ after : SimulatedUps, after.writeFails = false →
          Uart.flush after = (.ok (), after) := by
        intro after works
        show after.flush = _
        unfold flush
        rw [if_neg (by rw [works]; exact Bool.false_ne_true)]
      dsimp only
      rw [flushed _ (by rw [release_writeFails]; exact works)]

/-- Sending has no effect on whether reading fails. -/
theorem transmit_readFails (frame : Bytes) (ups : SimulatedUps) :
    (transmit frame ups).2.readFails = ups.readFails := by
  by_cases nonempty : frame = []
  · subst nonempty
    unfold transmit
    rw [Uart.writeAll]
    dsimp only
    have kept : (Uart.flush ups : Except SimulatedFault Unit × SimulatedUps).2 = ups := by
      show ups.flush.2 = ups
      unfold flush
      split <;> rfl
    generalize (Uart.flush ups : Except SimulatedFault Unit × SimulatedUps) = result at kept ⊢
    obtain ⟨outcome, after⟩ := result
    obtain rfl : after = ups := kept
    cases outcome <;> rfl
  · rw [transmit_eq nonempty]
    exact write_readFails frame ups

/-! ## Receiving a reply -/

/-- What can be read is the stream, and after it a read would have to wait. -/
theorem delivers_unread (reads : ups.readFails = false) :
    Delivers (.error .wouldBlock) ups.unread ups := by
  -- By induction on what is unread.
  induction waits : ups.unread.length using Nat.strong_induction_on generalizing ups with
  | _ count ih =>
    by_cases waiting : ups.unread = []
    · rw [waiting]
      refine .dry fun room _ => ?_
      show (ups.read room).1 = _
      unfold read
      rw [if_neg (by rw [reads]; exact Bool.false_ne_true), if_pos waiting]
      rfl
    · have some := List.length_pos_iff.2 waiting
      refine .piece (fun room => min room ups.unread.length) (fun room open_ => ?_)
        (fun room _ => ?_) (fun room _ => ?_) (fun room open_ => ?_)
      · exact lt_min open_ some
      · exact Nat.min_le_right _ _
      · show (ups.read room).1 = _
        rw [read_eq reads waiting, ← List.take_take, List.take_length]
      · have used : ups.unread.drop (min room ups.unread.length) = ups.unread.drop room := by
          by_cases all : ups.unread.length ≤ room
          · rw [Nat.min_eq_right all, List.drop_length, List.drop_eq_nil_of_le all]
          · rw [Nat.min_eq_left (by omega)]
        have fewer : (ups.unread.drop room).length < count := by
          rw [List.length_drop]
          omega
        show Delivers _ _ (ups.read room).2
        rw [read_eq reads waiting, used]
        exact @ih _ fewer { ups with unread := ups.unread.drop room } reads rfl

/-- A read fails and changes nothing, or takes the first bytes that are unread. -/
theorem read_cases (room : Nat) (ups : SimulatedUps) :
    (∃ fault, ups.read room = (.error fault, ups)) ∨
      ups.read room =
        (.ok (ups.unread.take room), { ups with unread := ups.unread.drop room }) := by
  unfold read
  split
  · exact .inl ⟨_, rfl⟩
  split
  · exact .inl ⟨_, rfl⟩
  · exact .inr rfl

/-- Reading changes nothing but what is unread. -/
theorem read_keeps (room : Nat) (ups : SimulatedUps) :
    ∃ unread, (ups.read room).2 = { ups with unread } := by
  obtain ⟨fault, refused⟩ | done := read_cases room ups
  · exact ⟨ups.unread, by rw [refused]⟩
  · exact ⟨ups.unread.drop room, by rw [done]⟩

/-- Receiving has no effect on whether reading fails. -/
theorem collect_readFails (reads : ups.readFails = false) (buffer : ReceiveBuffer size) :
    (collect buffer 0 ups).2.2.readFails = false := by
  refine SerialLink.collect_keeps (fun after : SimulatedUps => after.readFails = false) ?_ buffer 0
    reads
  intro room after kept
  obtain ⟨unread, same⟩ := read_keeps room after
  show (after.read room).2.readFails = false
  rw [same]
  exact kept

/-- A receive takes what can be read up to the first end marker, as far as there is room. -/
theorem collect_eq (reads : ups.readFails = false) (buffer : ReceiveBuffer size) :
    ∃ buffer' unread, collect buffer 0 ups =
        (.ok (taken ups.unread size).length, buffer', { ups with unread }) ∧
      buffer'.received (taken ups.unread size).length = taken ups.unread size := by
  have takes := SerialLink.takes_of_delivers (delivers_unread reads) buffer 0
  obtain ⟨unread, kept⟩ : ∃ unread, (collect buffer 0 ups).2.2 = { ups with unread } := by
    refine SerialLink.collect_keeps (fun after => ∃ unread, after = { ups with unread })
      ?_ buffer 0 ⟨ups.unread, rfl⟩
    rintro room after ⟨unread, rfl⟩
    exact read_keeps room _
  have outcome : (collect buffer 0 ups).1 = .ok (taken ups.unread size).length := by
    by_cases complete : SerialLink.Completes ups.unread size
    · rw [takes.completed complete, Nat.zero_add]
      rfl
    · rw [takes.ended complete, Nat.zero_add]
      rfl
  refine ⟨(collect buffer 0 ups).2.1, unread, ?_, ?_⟩
  · rw [← kept, ← outcome]
  · have received := takes.received_eq
    rw [Nat.zero_add] at received
    exact received

/-! ## Exchanges -/

/-- The line to a UPS, with what is in the buffer. -/
def line (ups : SimulatedUps) (buffer : ReceiveBuffer size) : Line (SerialLink SimulatedUps) size :=
  ⟨⟨ups⟩, buffer⟩

/-- The UPS after it took a frame and answered with the next reply, of which this much is unread. -/
def answered (frame unread : Bytes) (ups : SimulatedUps) : SimulatedUps where
  written := ups.written ++ frame
  writes := ups.writes + 1
  unread := unread
  replies := ups.replies.tail
  writeFails := ups.writeFails
  readFails := ups.readFails

/-- With nothing to read before, a write makes the next reply readable, or nothing if there is
none. -/
theorem write_discarded {frame : Bytes} (writes : ups.writeFails = false)
    (fits : ups.written.length + frame.length ≤ writtenCapacity) :
    ups.discarded.write frame =
      (.ok frame.length, ups.answered frame (ups.replies.headD [])) := by
  rw [@write_of_fits ups.discarded frame writes fits, release_eq, List.headD_eq_head?_getD]
  rfl

section exchange

variable {config : Config} {command : Command} {payload frame : Bytes}

/-- A request has some bytes. -/
theorem request_ne_nil
    (built : Frame.request? Frame.requestCapacity command .current config.address payload =
      .ok frame) : frame ≠ [] := by
  obtain ⟨-, rfl⟩ := Frame.request?_eq_ok_iff.1 built
  apply List.length_pos_iff.1
  rw [Frame.length_sealed]
  omega

/-- A frame that can be written is answered by the next reply, up to its end marker and as far as
there is room. If none is prepared, or an empty one, the UPS is silent. -/
theorem exchange_eq (reads : ups.readFails = false) (writes : ups.writeFails = false)
    (built : Frame.request? Frame.requestCapacity command .current config.address payload =
      .ok frame)
    (fits : ups.written.length + frame.length ≤ writtenCapacity) (buffer : ReceiveBuffer size) :
    let reply := taken (ups.replies.headD []) size
    ∃ buffer' unread, (ups.line buffer).exchange config command payload =
        (if reply.length = 0 then .error .timeout else .ok reply.length,
          (ups.answered frame unread).line buffer') ∧
      buffer'.received reply.length = reply := by
  intro reply
  have nonempty := request_ne_nil built
  have taken_whole : frame.length ≠ 0 := Nat.ne_of_gt (List.length_pos_iff.2 nonempty)
  have sent : transmit frame ups.discarded =
      (.ok frame.length, ups.answered frame (ups.replies.headD [])) := by
    rw [transmit_eq nonempty, write_discarded writes fits]
  have reads' : (ups.answered frame (ups.replies.headD [])).readFails = false := reads
  obtain ⟨buffer', unread, collected, received⟩ := collect_eq reads' buffer
  replace collected : collect buffer 0 (ups.answered frame (ups.replies.headD [])) =
      (.ok reply.length, buffer', ups.answered frame unread) := collected
  refine ⟨buffer', unread, ?_, received⟩
  unfold Line.exchange Line.sendAndAwait Line.await line
  simp only [Link.flushInput, drain_eq reads, built, Link.send, sent, if_neg taken_whole,
    Link.receive, collected]
  split <;> rfl

/-- An exchange that brings a reply has written its frame. -/
theorem writes_of_exchange (reads : ups.readFails = false) {buffer : ReceiveBuffer size} {got : Nat}
    {line' : Line (SerialLink SimulatedUps) size}
    (exchanged : (ups.line buffer).exchange config command payload = (.ok got, line')) :
    ∃ frame,
      Frame.request? Frame.requestCapacity command .current config.address payload = .ok frame ∧
      ups.writeFails = false ∧ ups.written.length + frame.length ≤ writtenCapacity := by
  unfold Line.exchange Line.sendAndAwait line at exchanged
  simp only [Link.flushInput, drain_eq reads, Link.send] at exchanged
  cases built : Frame.request? Frame.requestCapacity command .current config.address payload with
  | error fault => simp [built] at exchanged
  | ok frame =>
    simp only [built, transmit_eq (request_ne_nil built)] at exchanged
    cases sent : (ups.discarded.write frame).1 with
    | error fault =>
      rw [← Prod.eta (ups.discarded.write frame), sent] at exchanged
      simp at exchanged
    | ok count => exact ⟨frame, rfl, @fits_of_write ups.discarded frame count sent⟩

/-- Nothing is a reply but the next one that was prepared. What was unread before is not, nor is
what stands behind the end marker of an earlier reply. -/
theorem exchange_eq_ok (reads : ups.readFails = false) {buffer : ReceiveBuffer size} {got : Nat}
    {line' : Line (SerialLink SimulatedUps) size}
    (exchanged : (ups.line buffer).exchange config command payload = (.ok got, line')) :
    ∃ reply rest, ups.replies = reply :: rest ∧ line'.link.uart.replies = rest ∧
      line'.reply got = ⟨taken reply size⟩ := by
  obtain ⟨frame, built, works, fits⟩ := writes_of_exchange reads exchanged
  obtain ⟨buffer', unread, answer, received⟩ := exchange_eq reads works built fits buffer
  rw [answer, Prod.mk.injEq] at exchanged
  obtain ⟨came, rfl⟩ := exchanged
  have nonempty : (taken (ups.replies.headD []) size).length ≠ 0 := by
    intro silent
    rw [if_pos silent] at came
    cases came
  rw [if_neg nonempty, Except.ok.injEq] at came
  subst came
  cases replies : ups.replies with
  | nil =>
    rw [replies, List.headD_nil, SerialLink.taken_nil] at nonempty
    exact absurd List.length_nil nonempty
  | cons reply rest =>
    rw [replies] at received
    refine ⟨reply, rest, rfl, ?_, congrArg Reply.mk received⟩
    show ups.replies.tail = rest
    rw [replies, List.tail_cons]

end exchange

end UpsTelemetry.SimulatedUps
