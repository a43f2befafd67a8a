import Mathlib.Data.List.Basic
import UpsTelemetry.Bench.ScriptedUart
import UpsTelemetry.Proofs.Link.Stream

/-!
# A frame is sent once and in order

A UART may accept any part of what it is offered, so a frame goes out in as many writes as the UART
likes, and any of them may fail. What was accepted is read off a record of the calls (`TracedUart`),
so that it holds of every UART.

* `Writes`: the calls in which bytes are written, and what the write comes to. Its lemmas say what
  is delivered by them. `Uart.writeAll_writes`: a write makes such calls, and is otherwise the
  same as without a record.
* `Sends`: the same of a frame and the flush behind it (`SerialLink.transmit_sends`).
* `SerialLink.sends_exactly_once`: the main statement.
-/

namespace UpsTelemetry

/-! ## UARTs that keep a record -/

/-- One call of a UART by which something goes out. -/
inductive UartCall (ε : Type)
  /-- Bytes were offered, and so many of them were accepted. -/
  | write (offered : Bytes) (outcome : Except ε Nat)
  /-- What was written was pushed out. -/
  | flush (outcome : Except ε Unit)
deriving Repr

namespace UartCall

variable {ε : Type}

/-- The bytes that a call delivers: those accepted, from the first one offered. -/
def accepted : UartCall ε → Bytes
  | write offered (.ok count) => offered.take count
  | write _ (.error _) => []
  | flush _ => []

/-- The fault of a call that fails. -/
def fault? : UartCall ε → Option ε
  | write _ (.error fault) => some fault
  | flush (.error fault) => some fault
  | _ => none

/-- The bytes that calls deliver, in their order. -/
def delivered (calls : List (UartCall ε)) : Bytes := calls.flatMap accepted

/-- The faults of calls, in their order. -/
def faults (calls : List (UartCall ε)) : List ε := calls.filterMap fault?

/-- What is delivered is what the calls accepted, one after the other. -/
@[simp] theorem delivered_cons (call : UartCall ε) (calls : List (UartCall ε)) :
    delivered (call :: calls) = call.accepted ++ delivered calls := rfl

/-- A flush delivers nothing. -/
@[simp] theorem delivered_flushed (calls : List (UartCall ε)) (answer : Except ε Unit) :
    delivered (calls ++ [.flush answer]) = delivered calls := by
  rw [delivered, List.flatMap_append]
  exact List.append_nil _

/-- A flush adds its own fault, if it has one. -/
@[simp] theorem faults_flushed (calls : List (UartCall ε)) (answer : Except ε Unit) :
    faults (calls ++ [.flush answer]) = faults calls ++ (fault? (.flush answer)).toList := by
  rw [faults, List.filterMap_append]
  cases answer <;> rfl

/-- A write that accepts something has no fault. -/
@[simp] theorem faults_wrote (offered : Bytes) (count : Nat) (calls : List (UartCall ε)) :
    faults (.write offered (.ok count) :: calls) = faults calls := rfl

end UartCall

/-- A UART and the record of what goes out through it. -/
structure TracedUart (υ ε : Type) where
  /-- The UART that does the work. -/
  uart : υ
  /-- The calls made so far, the first one first. -/
  calls : List (UartCall ε) := []

variable {υ ε : Type} [Uart υ ε]

instance : Uart (TracedUart υ ε) ε where
  read room traced :=
    let (outcome, uart) := Uart.read room traced.uart
    (outcome, { traced with uart })
  readReady traced :=
    let (outcome, uart) := Uart.readReady traced.uart
    (outcome, { traced with uart })
  write bytes traced :=
    let (outcome, uart) := Uart.write bytes traced.uart
    (outcome, ⟨uart, traced.calls ++ [.write bytes outcome]⟩)
  flush traced :=
    let (outcome, uart) := Uart.flush traced.uart
    (outcome, ⟨uart, traced.calls ++ [.flush outcome]⟩)
  length_read_le := Uart.length_read_le
  write_le := Uart.write_le
  write_pos := Uart.write_pos

instance [FiniteInput υ] : FiniteInput (TracedUart υ ε) where
  backlog traced := FiniteInput.backlog traced.uart
  backlog_read_lt {_ traced _ _} came := @FiniteInput.backlog_read_lt υ _ _ _ _ traced.uart _ _ came
  backlog_readReady_le {traced} := @FiniteInput.backlog_readReady_le υ _ _ _ traced.uart

namespace TracedUart

variable {uart after : υ} {earlier : List (UartCall ε)}

/-- A traced port writes as the port does, and records it. -/
theorem write_eq {bytes : Bytes} {answer : Except ε Nat}
    (offered : Uart.write bytes uart = (answer, after)) :
    Uart.write bytes (⟨uart, earlier⟩ : TracedUart υ ε) =
      (answer, ⟨after, earlier ++ [.write bytes answer]⟩) := by
  simp only [Uart.write, offered]

/-- It flushes as the port does, and records it. -/
theorem flush_eq {answer : Except ε Unit} (flushed : Uart.flush uart = (answer, after)) :
    Uart.flush (⟨uart, earlier⟩ : TracedUart υ ε) =
      (answer, ⟨after, earlier ++ [.flush answer]⟩) := by
  simp only [Uart.flush, flushed]

end TracedUart

/-! ## The calls of a write -/

open UartCall (delivered faults)

/-- The calls by which bytes are written, and what the write comes to with them. -/
inductive Writes {ε : Type} : Bytes → List (UartCall ε) → Except ε Unit → Prop
  /-- There is nothing to write. -/
  | done : Writes [] [] (.ok ())
  /-- The UART fails, and that is the end of it. -/
  | failed {bytes : Bytes} (nonempty : bytes ≠ []) (fault : ε) :
      Writes bytes [.write bytes (.error fault)] (.error fault)
  /-- The UART accepts some of the bytes, and the rest is written. -/
  | wrote {bytes : Bytes} {count : Nat} {calls : List (UartCall ε)} {outcome : Except ε Unit}
      (positive : 0 < count) (inside : count ≤ bytes.length)
      (rest : Writes (bytes.drop count) calls outcome) :
      Writes bytes (.write bytes (.ok count) :: calls) outcome

namespace Writes

variable {bytes : Bytes} {calls : List (UartCall ε)} {outcome : Except ε Unit}

/-- What is delivered is the bytes up to some point, and all of them just if the write succeeds. -/
theorem exists_undelivered (writes : Writes bytes calls outcome) :
    ∃ undelivered, delivered calls ++ undelivered = bytes ∧
      (undelivered = [] ↔ outcome = .ok ()) := by
  induction writes with
  | done => exact ⟨[], rfl, by simp⟩
  | @failed bytes nonempty fault => exact ⟨bytes, rfl, by simpa using nonempty⟩
  | @wrote bytes count calls outcome positive inside rest ih =>
    obtain ⟨undelivered, parts, all⟩ := ih
    refine ⟨undelivered, ?_, all⟩
    calc delivered (.write bytes (.ok count) :: calls) ++ undelivered
        = bytes.take count ++ (delivered calls ++ undelivered) := by
          rw [UartCall.delivered_cons, UartCall.accepted, List.append_assoc]
      _ = bytes := by rw [parts, List.take_append_drop]

/-- Either there is no fault, or one, which is what the write comes to. -/
theorem faults_cases (writes : Writes bytes calls outcome) :
    (outcome = .ok () ∧ faults calls = []) ∨
      ∃ fault, outcome = .error fault ∧ faults calls = [fault] := by
  induction writes with
  | done => exact .inl ⟨rfl, rfl⟩
  | failed nonempty fault => exact .inr ⟨fault, rfl, rfl⟩
  | wrote positive inside rest ih =>
    rw [UartCall.faults_wrote]
    exact ih

/-- Writing that succeeds has met no fault. -/
theorem faults_of_ok (writes : Writes bytes calls (.ok ())) : faults calls = [] := by
  obtain ⟨-, none⟩ | ⟨fault, fails, -⟩ := writes.faults_cases
  · exact none
  · cases fails

/-- Writing that fails has met one fault, its own. -/
theorem faults_of_error {fault : ε} (writes : Writes bytes calls (.error fault)) :
    faults calls = [fault] := by
  obtain ⟨succeeds, -⟩ | ⟨fault', fails, one⟩ := writes.faults_cases
  · cases succeeds
  · cases fails
    exact one

/-- Writing that succeeds has delivered everything. -/
theorem delivered_of_ok (writes : Writes bytes calls (.ok ())) : delivered calls = bytes := by
  obtain ⟨undelivered, parts, all⟩ := writes.exists_undelivered
  rw [← parts, all.2 rfl, List.append_nil]

/-- Writing that fails has delivered a beginning, and not all. -/
theorem delivered_of_error {fault : ε} (writes : Writes bytes calls (.error fault)) :
    delivered calls <+: bytes ∧ delivered calls ≠ bytes := by
  obtain ⟨undelivered, parts, all⟩ := writes.exists_undelivered
  refine ⟨⟨undelivered, parts⟩, fun same => ?_⟩
  rw [same, List.append_right_eq_self] at parts
  cases all.1 parts

/-- Each time just the bytes are offered that are not yet delivered. -/
theorem offers_rest (writes : Writes bytes calls outcome) {before : List (UartCall ε)}
    {offered : Bytes} {answer : Except ε Nat} (made : before ++ [.write offered answer] <+: calls) :
    delivered before ++ offered = bytes := by
  induction writes generalizing before with
  | done => simp at made
  | @failed bytes nonempty fault =>
    cases before with
    | nil =>
      obtain ⟨same, -⟩ := List.cons_prefix_cons.1 made
      cases same
      rfl
    | cons call before =>
      obtain ⟨-, more⟩ := List.cons_prefix_cons.1 made
      simp at more
  | @wrote bytes count calls outcome positive inside rest ih =>
    cases before with
    | nil =>
      obtain ⟨same, -⟩ := List.cons_prefix_cons.1 made
      cases same
      rfl
    | cons call before =>
      obtain ⟨rfl, more⟩ := List.cons_prefix_cons.1 made
      calc delivered (.write bytes (.ok count) :: before) ++ offered
          = bytes.take count ++ (delivered before ++ offered) := by
            rw [UartCall.delivered_cons, UartCall.accepted, List.append_assoc]
        _ = bytes := by rw [ih more, List.take_append_drop]

/-- Nothing is pushed out during a write. -/
theorem flush_not_mem (writes : Writes bytes calls outcome) (answer : Except ε Unit) :
    .flush answer ∉ calls := by
  induction writes with
  | done => nofun
  | failed nonempty fault => simp
  | wrote positive inside rest ih => simpa using ih

end Writes

/-- A write over a UART with a record does what it does without, and adds the calls of a write. -/
theorem Uart.writeAll_writes (bytes : Bytes) (uart : υ) (earlier : List (UartCall ε)) :
    ∃ calls, Writes bytes calls (writeAll bytes uart).1 ∧
      writeAll bytes (⟨uart, earlier⟩ : TracedUart υ ε) =
        ((writeAll bytes uart).1, ⟨(writeAll bytes uart).2, earlier ++ calls⟩) := by
  -- By induction on the writes: each leaves fewer bytes for the next.
  induction bytes, uart using writeAll.induct generalizing earlier with
  | case1 uart =>
    refine ⟨[], ?_, ?_⟩
    · rw [writeAll]
      exact .done
    · rw [writeAll, writeAll, List.append_nil]
  | case2 uart byte rest fault after offered =>
    have nonempty : byte :: rest ≠ [] := List.cons_ne_nil _ _
    have ends := writeAll_of_error nonempty offered
    refine ⟨[.write (byte :: rest) (.error fault)], ?_, ?_⟩
    · rw [ends]
      exact .failed nonempty fault
    · rw [writeAll_of_error nonempty (TracedUart.write_eq offered), ends]
  | case3 uart byte rest count after offered ih =>
    have nonempty : byte :: rest ≠ [] := List.cons_ne_nil _ _
    have accepts : (write (byte :: rest) uart).1 = .ok count := by rw [offered]
    have goesOn := writeAll_of_part nonempty offered
    obtain ⟨calls, writes, traced⟩ := ih (earlier ++ [.write (byte :: rest) (.ok count)])
    refine ⟨.write (byte :: rest) (.ok count) :: calls, ?_, ?_⟩
    · rw [goesOn]
      exact .wrote (write_pos accepts) (write_le accepts) writes
    · rw [writeAll_of_part nonempty (TracedUart.write_eq offered), goesOn, traced,
        List.append_assoc, List.singleton_append]

/-! ## The calls of a frame -/

/-- The calls by which a frame is sent, and what sending it comes to with them. -/
inductive Sends {ε : Type} (frame : Bytes) : List (UartCall ε) → Except ε Nat → Prop
  /-- Not all of the frame could be written. -/
  | unwritten {calls : List (UartCall ε)} {fault : ε} (writes : Writes frame calls (.error fault)) :
      Sends frame calls (.error fault)
  /-- All of the frame was written and then pushed out, or not. -/
  | flushed {calls : List (UartCall ε)} (writes : Writes frame calls (.ok ()))
      (answer : Except ε Unit) :
      Sends frame (calls ++ [.flush answer]) (answer.map fun _ => frame.length)

namespace Sends

variable {frame : Bytes} {calls : List (UartCall ε)} {outcome : Except ε Nat}

/-- Either there is no fault, or one, which is what sending comes to. -/
theorem faults_cases (sends : Sends frame calls outcome) :
    (outcome = .ok frame.length ∧ faults calls = []) ∨
      ∃ fault, outcome = .error fault ∧ faults calls = [fault] := by
  cases sends with
  | @unwritten _ fault writes => exact .inr ⟨fault, rfl, writes.faults_of_error⟩
  | flushed writes answer =>
    rw [UartCall.faults_flushed, writes.faults_of_ok, List.nil_append]
    cases answer with
    | ok => exact .inl ⟨rfl, rfl⟩
    | error fault => exact .inr ⟨fault, rfl, rfl⟩

/-- Sending succeeds exactly if no call of the port fails. -/
theorem ok_iff (sends : Sends frame calls outcome) :
    outcome = .ok frame.length ↔ faults calls = [] := by
  obtain ⟨rfl, none⟩ | ⟨fault, rfl, one⟩ := sends.faults_cases
  · exact iff_of_true rfl none
  · refine iff_of_false nofun fun none => ?_
    rw [one] at none
    cases none

/-- Sending fails exactly with the one fault of the port. -/
theorem error_iff (sends : Sends frame calls outcome) (fault : ε) :
    outcome = .error fault ↔ faults calls = [fault] := by
  obtain ⟨rfl, none⟩ | ⟨fault', rfl, one⟩ := sends.faults_cases
  · rw [none]
    exact iff_of_false nofun nofun
  · rw [one, Except.error.injEq, List.singleton_inj]

/-- What is delivered begins the frame. It is all of the frame just if the UART is flushed. -/
theorem delivered_isPrefix (sends : Sends frame calls outcome) :
    delivered calls <+: frame ∧
      (delivered calls = frame ↔ ∃ answer, .flush answer ∈ calls) := by
  cases sends with
  | unwritten writes =>
    obtain ⟨begins, part⟩ := writes.delivered_of_error
    refine ⟨begins, fun whole => absurd whole part, ?_⟩
    rintro ⟨answer, mem⟩
    exact absurd mem (writes.flush_not_mem answer)
  | flushed writes answer =>
    rw [UartCall.delivered_flushed, writes.delivered_of_ok]
    refine ⟨List.prefix_rfl, fun _ => ⟨answer, ?_⟩, fun _ => rfl⟩
    exact List.mem_append_right _ (List.mem_singleton_self _)

/-- A frame that is sent is delivered whole and pushed out last of all. -/
theorem of_ok {count : Nat} (sends : Sends frame calls (.ok count)) :
    count = frame.length ∧ delivered calls = frame ∧ calls.getLast? = some (.flush (.ok ())) := by
  generalize same : (.ok count : Except ε Nat) = outcome at sends
  cases sends with
  | unwritten writes => cases same
  | flushed writes answer =>
    cases answer with
    | error fault => cases same
    | ok =>
      obtain rfl := Except.ok.inj same
      rw [UartCall.delivered_flushed, writes.delivered_of_ok]
      exact ⟨rfl, rfl, List.getLast?_concat⟩

/-- Each time just the bytes are offered that are not yet delivered. -/
theorem offers_rest (sends : Sends frame calls outcome) {before : List (UartCall ε)}
    {offered : Bytes} {answer : Except ε Nat} (made : before ++ [.write offered answer] <+: calls) :
    delivered before ++ offered = frame := by
  cases sends with
  | unwritten writes => exact writes.offers_rest made
  | flushed writes answer =>
    rcases List.prefix_concat_iff.1 made with same | earlier
    · have last := congrArg List.getLast? same
      simp at last
    · exact writes.offers_rest earlier

end Sends

namespace SerialLink

/-- A frame sent over a UART with a record comes to what it does without, and adds the calls by
which a frame is sent. -/
theorem transmit_sends (frame : Bytes) (uart : υ) (earlier : List (UartCall ε)) :
    ∃ calls, Sends frame calls (transmit frame uart).1 ∧
      transmit frame (⟨uart, earlier⟩ : TracedUart υ ε) =
        ((transmit frame uart).1, ⟨(transmit frame uart).2, earlier ++ calls⟩) := by
  obtain ⟨calls, writes, traced⟩ := Uart.writeAll_writes frame uart earlier
  rw [transmit, transmit, traced]
  obtain ⟨outcome, after, written⟩ :
      ∃ outcome after, Uart.writeAll frame uart = (outcome, after) := ⟨_, _, rfl⟩
  rw [written] at writes ⊢
  cases outcome with
  | error fault => exact ⟨calls, .unwritten writes, rfl⟩
  | ok =>
    obtain ⟨answer, done, flushed⟩ : ∃ answer done, Uart.flush after = (answer, done) :=
      ⟨_, _, rfl⟩
    have recorded : Uart.flush (⟨after, earlier ++ calls⟩ : TracedUart υ ε) =
        (answer, ⟨done, earlier ++ (calls ++ [.flush answer])⟩) := by
      rw [TracedUart.flush_eq flushed, List.append_assoc]
    have sends := Sends.flushed writes answer
    refine ⟨calls ++ [.flush answer], ?_⟩
    simp only [flushed, recorded]
    cases answer with
    | error fault => exact ⟨sends, rfl⟩
    | ok => exact ⟨sends, rfl⟩

/-- **A frame is sent once and in order**, however a UART takes it. A record of the calls shows what
the UART accepts, and does not change what is sent. Each write is offered just what is not yet
accepted, so what is accepted in all is the beginning of the frame, with nothing lost, repeated or
out of order. Sending comes to the length of the frame just if no write fails and the flush
behind them does not either, and then all of the frame is out. Otherwise it comes to the first
fault, which ends it. All of the frame is accepted just if the UART comes to be flushed.

So it is with every UART. A link over one whose input comes to an end sends in just this way. -/
theorem sends_exactly_once [Fault ε] (frame : Bytes) (uart : υ) :
    ∃ outcome after calls,
      transmit frame uart = (outcome, after) ∧
      transmit frame (⟨uart, []⟩ : TracedUart υ ε) = (outcome, ⟨after, calls⟩) ∧
      (∀ [FiniteInput υ],
        Link.send frame (⟨uart⟩ : SerialLink υ) = (outcome, ⟨after⟩) ∧
        Link.send frame (⟨⟨uart, []⟩⟩ : SerialLink (TracedUart υ ε)) =
          (outcome, ⟨⟨after, calls⟩⟩)) ∧
      (outcome = .ok frame.length ↔ faults calls = []) ∧
      (∀ count, outcome = .ok count → count = frame.length ∧ delivered calls = frame ∧
        calls.getLast? = some (.flush (.ok ()))) ∧
      (∀ fault, outcome = .error fault ↔ faults calls = [fault]) ∧
      delivered calls <+: frame ∧
      (delivered calls = frame ↔ ∃ answer, .flush answer ∈ calls) ∧
      ∀ before offered answer, before ++ [.write offered answer] <+: calls →
        delivered before ++ offered = frame := by
  obtain ⟨calls, sends, traced⟩ := transmit_sends frame uart []
  obtain ⟨begins, whole⟩ := sends.delivered_isPrefix
  rw [List.nil_append] at traced
  refine ⟨(transmit frame uart).1, (transmit frame uart).2, calls, rfl, traced, ?_, sends.ok_iff,
    ?_, sends.error_iff, begins, whole, fun _ _ _ => sends.offers_rest⟩
  · intro _
    refine ⟨rfl, ?_⟩
    simp only [Link.send, traced]
  · intro count succeeds
    rw [succeeds] at sends
    exact sends.of_ok

/-- A UART that takes two bytes, then one, and then fails. -/
example :
    (transmit [0x7E, 0x32, 0x30, 0x0D] ({ uart := { writes := [.acceptUpTo 1, .acceptUpTo 0,
      .fail .timedOut] } } : TracedUart ScriptedUart FaultKind)).2.calls =
      [.write [0x7E, 0x32, 0x30, 0x0D] (.ok 2), .write [0x30, 0x0D] (.ok 1),
        .write [0x0D] (.error .timedOut)] := by
  cbv

end SerialLink

end UpsTelemetry
