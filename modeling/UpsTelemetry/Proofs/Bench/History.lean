import Mathlib.Data.List.DropRight
import UpsTelemetry.Proofs.Bench.SimulatedUps

/-!
# The history of a simulated UPS

A simulated UPS is told from its history. Of every action one can note what came of it (`note`), and
the notes say all that the UPS remembers: the bytes it keeps are those of the writes since they were
last cleared, the replies in its queue are the ones that were prepared and not released yet, and
what can be read is the rest of what was made readable last (`Recalls`).

* `effect`: what one action does to each part of the memory.
* `Recalls.concat`: so the memory is right after an action if it was before.
* `one_answer_per_write`: the main statement, on every history.

The answers that a driver gets from such a UPS depend on this: a write that failed and released a
reply all the same would shift every later one. Of all actions that fail only a `setUnread` of too
many bytes leaves a trace. It throws away what could be read.
-/

namespace UpsTelemetry.SimulatedUps

/-! ## Notes -/

/-- What can be noted of an action. -/
structure Note where
  /-- What was written before is forgotten. -/
  clears : Bool := false
  /-- The bytes of a write that succeeded. -/
  sent : Option Bytes := none
  /-- The reply that was prepared. -/
  prepared : Option Bytes := none
  /-- The reply that was released: the oldest in the queue. -/
  released : Option Bytes := none
  /-- What was made readable, in place of what was unread. -/
  loaded : Option Bytes := none
  /-- The bytes that were read. -/
  piece : Option Bytes := none
  /-- Whether writing fails from now on. -/
  writeFails : Option Bool := none
  /-- Whether reading fails from now on. -/
  readFails : Option Bool := none

/-- What is to be noted of an action. -/
def note (ups : SimulatedUps) (action : Action) : Note :=
  match action, (act action ups).1 with
  | .setUnread bytes, .ok _ => { loaded := some bytes }
  | .setUnread _, .error _ => { loaded := some [] }
  | .prepare reply, .ok _ => { prepared := some reply }
  | .write bytes, .ok _ =>
    { sent := some bytes, released := ups.replies.head?, loaded := ups.replies.head? }
  | .read _, .ok (.read bytes) => { piece := some bytes }
  | .setWriteFails fails, _ => { writeFails := some fails }
  | .setReadFails fails, _ => { readFails := some fails }
  | .clearWritten, _ => { clears := true }
  | _, _ => {}

/-- The notes of some actions, the oldest first. -/
def history : SimulatedUps → List Action → List Note
  | _, [] => []
  | ups, action :: rest => note ups action :: history (act action ups).2 rest

/-- The UPS after some actions. -/
def afterAll (ups : SimulatedUps) (actions : List Action) : SimulatedUps :=
  actions.foldl (fun ups action => (act action ups).2) ups

/-- One more action makes one more note. -/
theorem history_concat (ups : SimulatedUps) (actions : List Action) (action : Action) :
    history ups (actions ++ [action]) =
      history ups actions ++ [note (ups.afterAll actions) action] := by
  induction actions generalizing ups with
  | nil => rfl
  | cons first rest ih =>
    rw [List.cons_append, history, history, ih, List.cons_append]
    rfl

/-- The last action is done after all others. -/
theorem afterAll_concat (ups : SimulatedUps) (actions : List Action) (action : Action) :
    ups.afterAll (actions ++ [action]) = (act action (ups.afterAll actions)).2 := by
  rw [afterAll, List.foldl_append]
  rfl

section

variable {α : Type}

/-- The parts of the notes behind the last one that `ends` what came before. -/
def since (ends : Note → Bool) (part? : Note → Option α) (notes : List Note) : List α :=
  (notes.rtakeWhile fun note => ! ends note).filterMap part?

/-- The last value that was noted, and the one at first if there is none. -/
def latest (value? : Note → Option α) (first : α) (notes : List Note) : α :=
  (notes.filterMap value?).getLast?.getD first

/-- A note that ends the account starts it afresh; any other adds its part. -/
theorem since_concat (ends : Note → Bool) (part? : Note → Option α) (notes : List Note)
    (note : Note) :
    since ends part? (notes ++ [note]) =
      if ends note then [] else since ends part? notes ++ (part? note).toList := by
  unfold since
  rw [List.rtakeWhile_concat]
  by_cases last : ends note = true
  · simp [last]
  · cases part : part? note <;> simp [last, part]

/-- A note with a value has the latest one; without, the latest one stays. -/
theorem latest_concat (value? : Note → Option α) (first : α) (notes : List Note) (note : Note) :
    latest value? first (notes ++ [note]) = (value? note).getD (latest value? first notes) := by
  unfold latest
  cases value : value? note <;> simp [value]

/-- A note adds its part behind those of the others. -/
theorem filterMap_concat (part? : Note → Option α) (notes : List Note) (note : Note) :
    (notes ++ [note]).filterMap part? = notes.filterMap part? ++ (part? note).toList := by
  cases part : part? note <;> simp [part]

end

/-! ## What is remembered -/

/-- All that a UPS remembers is told from its history. -/
structure Recalls (notes : List Note) (ups : SimulatedUps) : Prop where
  /-- It keeps the writes since they were last cleared, in order. -/
  written_eq : ups.written = (since Note.clears Note.sent notes).flatten
  /-- It keeps their number. -/
  writes_eq : ups.writes = (since Note.clears Note.sent notes).length
  /-- They are not more than it has room for. -/
  room : ups.written.length ≤ writtenCapacity
  /-- The replies that were released, and then those in the queue, are the ones that were prepared:
  none is lost, comes twice, or out of its turn. -/
  replies_eq : notes.filterMap Note.released ++ ups.replies = notes.filterMap Note.prepared
  /-- The pieces that were read since something was made readable, and then what is unread, are
  together what was made readable. -/
  unread_eq : (since (fun note => note.loaded.isSome) Note.piece notes).flatten ++ ups.unread =
    latest Note.loaded [] notes
  /-- Writing fails if it was last made to. -/
  writeFails_eq : ups.writeFails = latest Note.writeFails false notes
  /-- Reading fails if it was last made to. -/
  readFails_eq : ups.readFails = latest Note.readFails false notes

/-- A simulated UPS that nothing was done to recalls nothing. -/
theorem recalls_fresh : Recalls [] {} where
  written_eq := rfl
  writes_eq := rfl
  room := Nat.zero_le _
  replies_eq := rfl
  unread_eq := rfl
  writeFails_eq := rfl
  readFails_eq := rfl

/-! ## One action -/

/-- A reply is refused, and nothing changes, or is put at the end of the queue. -/
theorem prepare_cases (reply : Bytes) (ups : SimulatedUps) :
    ups.prepare reply = (.error .overflow, ups) ∨
      ups.prepare reply = (.ok (), { ups with replies := ups.replies ++ [reply] }) := by
  unfold prepare
  split
  · exact .inr rfl
  · exact .inl rfl

/-- What an action does to each part of the memory, by what is noted of it. -/
structure Effect (note : Note) (before after : SimulatedUps) : Prop where
  written_eq : after.written =
    if note.clears then [] else before.written ++ note.sent.toList.flatten
  writes_eq : after.writes = if note.clears then 0 else before.writes + note.sent.toList.length
  room : before.written.length ≤ writtenCapacity → after.written.length ≤ writtenCapacity
  replies_eq : note.released.toList ++ after.replies = before.replies ++ note.prepared.toList
  unread_eq : note.piece.toList.flatten ++ after.unread = note.loaded.getD before.unread
  /-- No action both reads and makes something readable. -/
  apart : note.loaded.isSome = true → note.piece = none
  writeFails_eq : after.writeFails = note.writeFails.getD before.writeFails
  readFails_eq : after.readFails = note.readFails.getD before.readFails

/-- An action that leaves no note leaves everything else as it was, too. -/
theorem Effect.nothing (ups : SimulatedUps) : Effect {} ups ups := by
  constructor <;> simp

/-- **The step.** Every action changes the memory as its note says. -/
theorem effect (ups : SimulatedUps) (action : Action) :
    Effect (note ups action) ups (act action ups).2 := by
  cases action with
  | setUnread bytes =>
    by_cases fits : bytes.length ≤ readCapacity
    · constructor <;> simp [note, act, setUnread, fits, Except.map]
    · constructor <;> simp [note, act, setUnread, fits, Except.map]
  | prepare reply =>
    obtain refused | done := prepare_cases reply ups
    · simpa [note, act, refused, Except.map] using Effect.nothing ups
    · constructor <;> simp [note, act, done, Except.map]
  | write bytes =>
    obtain ⟨fault, refused⟩ | ⟨fits, done⟩ := write_cases bytes ups
    · simpa [note, act, refused, Except.map] using Effect.nothing ups
    · have queue : ups.replies.head?.toList ++ ups.replies.tail = ups.replies := by
        cases ups.replies <;> rfl
      constructor <;> simp [note, act, done, release_eq, fits, queue, Except.map]
  | flush =>
    have kept : ups.flush.2 = ups := by
      unfold flush
      split <;> rfl
    simpa [note, act, kept] using Effect.nothing ups
  | read room =>
    obtain ⟨fault, refused⟩ | done := read_cases room ups
    · simpa [note, act, refused, Except.map] using Effect.nothing ups
    · constructor <;> simp [note, act, done, Except.map]
  | readReady => exact Effect.nothing ups
  | setWriteFails fails => constructor <;> simp [note, act]
  | setReadFails fails => constructor <;> simp [note, act]
  | clearWritten => constructor <;> simp [note, act, clearWritten]

/-- The memory is told from the history after an action if it was before. -/
theorem Recalls.concat {notes : List Note} {note : Note} {before after : SimulatedUps}
    (recalls : Recalls notes before) (effect : Effect note before after) :
    Recalls (notes ++ [note]) after where
  written_eq := by
    rw [effect.written_eq, since_concat, recalls.written_eq]
    split
    · rfl
    · rw [List.flatten_append]
  writes_eq := by
    rw [effect.writes_eq, since_concat, recalls.writes_eq]
    split
    · rfl
    · rw [List.length_append]
  room := effect.room recalls.room
  replies_eq := by
    rw [filterMap_concat, filterMap_concat, List.append_assoc, effect.replies_eq,
      ← List.append_assoc, recalls.replies_eq]
  unread_eq := by
    have read := effect.unread_eq
    rw [since_concat, latest_concat]
    cases loaded : note.loaded with
    | some source =>
      rw [effect.apart (by rw [loaded]; rfl), loaded] at read
      exact read
    | none =>
      rw [loaded, Option.getD_none] at read
      rw [if_neg (by simp), List.flatten_append, List.append_assoc, read, recalls.unread_eq,
        Option.getD_none]
  writeFails_eq := by rw [latest_concat, effect.writeFails_eq, recalls.writeFails_eq]
  readFails_eq := by rw [latest_concat, effect.readFails_eq, recalls.readFails_eq]

/-- All that a UPS remembers is told from its history, whatever was done to it. -/
theorem recalls_history (actions : List Action) :
    Recalls (history {} actions) (afterAll {} actions) := by
  induction actions using List.reverseRecOn with
  | nil => exact recalls_fresh
  | append_singleton actions action ih =>
    rw [history_concat, afterAll_concat]
    exact ih.concat (effect _ action)

/-! ## What fails -/

/-- What fails leaves no trace, unless it was to make something readable. -/
theorem act_of_error {ups : SimulatedUps} {action : Action} {fault : SimulatedFault}
    (failed : (act action ups).1 = .error fault) (keeps : ∀ bytes, action ≠ .setUnread bytes) :
    (act action ups).2 = ups := by
  cases action with
  | setUnread bytes => exact absurd rfl (keeps bytes)
  | prepare reply =>
    obtain refused | done := prepare_cases reply ups
    · simp [act, refused]
    · simp [act, done, Except.map] at failed
  | write bytes =>
    obtain ⟨_, refused⟩ | ⟨-, done⟩ := write_cases bytes ups
    · simp [act, refused]
    · simp [act, done, Except.map] at failed
  | flush =>
    show ups.flush.2 = ups
    unfold flush
    split <;> rfl
  | read room =>
    obtain ⟨_, refused⟩ | done := read_cases room ups
    · simp [act, refused]
    · simp [act, done, Except.map] at failed
  | _ => cases failed

/-- Writing fails if it was made to fail, or if there is no more room in the record of what was
written; there is no other reason. -/
theorem write_fails_iff {bytes : Bytes} {ups : SimulatedUps} :
    (∃ fault, (ups.write bytes).1 = .error fault) ↔
      ups.writeFails = true ∨ writtenCapacity < ups.written.length + bytes.length := by
  unfold write
  by_cases fails : ups.writeFails = true
  · simp [fails]
  · by_cases fits : writtenCapacity < ups.written.length + bytes.length <;> simp [fails, fits]

/-- A reply cannot be prepared if it is too long or if too many are waiting already; there is no
other reason. -/
theorem prepare_fails_iff {reply : Bytes} {ups : SimulatedUps} :
    (∃ fault, (ups.prepare reply).1 = .error fault) ↔
      readCapacity < reply.length ∨ replyCapacity ≤ ups.replies.length := by
  unfold prepare
  by_cases fits : reply.length ≤ readCapacity ∧ ups.replies.length < replyCapacity
  · simp [fits]
  · rw [if_neg fits]
    simp
    omega

/-! ## Every history -/

/-- A write that succeeds with replies in the queue makes the oldest one readable, all of it and
nothing else. -/
theorem write_of_queue {bytes reply : Bytes} {rest : List Bytes} {count : Nat} {ups : SimulatedUps}
    (queue : ups.replies = reply :: rest) (succeeded : (ups.write bytes).1 = .ok count) :
    count = bytes.length ∧ (ups.write bytes).2.unread = reply ∧
      (ups.write bytes).2.replies = rest := by
  obtain ⟨fault, refused⟩ | ⟨-, done⟩ := write_cases bytes ups
  · rw [refused] at succeeded
    cases succeeded
  · rw [done, Except.ok.injEq] at succeeded
    rw [done, release_eq, queue]
    exact ⟨succeeded.symm, rfl, rfl⟩

/-- There is nothing to read just if a read, of any size and not made to fail, would have to
wait. -/
theorem read_waits_iff (room : Nat) (ups : SimulatedUps) :
    (read room { ups with readFails := false }).1 = .error .wouldBlock ↔
      ups.readReady = false := by
  unfold read readReady
  by_cases empty : ups.unread = [] <;> simp [empty]

/-- **One answer for each write.** Whatever is done to a simulated UPS, it remembers what its
history says: the writes since they were cleared and their number, the replies that were prepared
and not released, each in its turn, and what is left of what was made readable after the pieces that
were read of it. A write that succeeds makes the oldest reply of the queue readable, whole, in place
of what was unread. A read takes the next piece, until there is nothing to read, which is when it
would have to wait. Writing fails if it was made to or if there is no room, preparing a reply if it
is too long or the queue is full, and what fails leaves everything as it was. -/
theorem one_answer_per_write (actions : List Action) :
    let ups := afterAll {} actions
    Recalls (history {} actions) ups ∧
      (∀ bytes count reply rest, ups.replies = reply :: rest → (ups.write bytes).1 = .ok count →
        count = bytes.length ∧ (ups.write bytes).2.unread = reply ∧
          (ups.write bytes).2.replies = rest) ∧
      (∀ room, ups.readFails = false → ups.readReady = true →
        (ups.read room).1 = .ok (ups.unread.take room)) ∧
      (∀ room, (read room { ups with readFails := false }).1 = .error .wouldBlock ↔
        ups.readReady = false) ∧
      (∀ bytes, (∃ fault, (ups.write bytes).1 = .error fault) ↔
        ups.writeFails = true ∨ writtenCapacity < ups.written.length + bytes.length) ∧
      (∀ reply, (∃ fault, (ups.prepare reply).1 = .error fault) ↔
        readCapacity < reply.length ∨ replyCapacity ≤ ups.replies.length) ∧
      ∀ action fault, (∀ bytes, action ≠ .setUnread bytes) → (act action ups).1 = .error fault →
        (act action ups).2 = ups := by
  intro ups
  refine ⟨recalls_history actions, fun _ _ _ _ => write_of_queue, ?_, fun room => read_waits_iff
    room ups, fun bytes => write_fails_iff, fun reply => prepare_fails_iff,
    fun action fault keeps failed => act_of_error failed keeps⟩
  intro room reads ready
  have waiting : ups.unread ≠ [] := by simpa [readReady] using ready
  rw [read_eq reads waiting]

/-- Two replies are prepared, and a write releases the first in place of other input. One byte of it
is read, and the rest is there. A write that does not fit leaves it alone, and one that does
releases the second reply. -/
theorem one_answer_per_write_of_two :
    let ups := afterAll {} [.prepare [0x41, 0x42], .prepare [0x43], .setUnread [0x7A],
      .write [0x31], .read 1]
    (ups.read 8).1 = .ok [0x42] ∧
      (act (.write (List.replicate 1024 0x32)) ups).1 = .error .overflow ∧
      (act (.write (List.replicate 1024 0x32)) ups).2 = ups ∧
      (ups.write [0x33]).1 = .ok 1 ∧ (ups.write [0x33]).2.unread = [0x43] := by
  intro ups
  obtain ⟨-, releases, reads, -, -, -, traceless⟩ := one_answer_per_write
    [.prepare [0x41, 0x42], .prepare [0x43], .setUnread [0x7A], .write [0x31], .read 1]
  have refused : (act (.write (List.replicate 1024 0x32)) ups).1 = .error .overflow := by
    decide +kernel
  have written : (ups.write [0x33]).1 = .ok 1 := by decide
  refine ⟨reads 8 (by decide) (by decide), refused, traceless _ _ (fun _ => nofun) refused, written,
    ?_⟩
  exact (releases [0x33] 1 [0x43] [] (by decide) written).2.1

end UpsTelemetry.SimulatedUps
