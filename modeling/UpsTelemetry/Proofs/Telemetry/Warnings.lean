import UpsTelemetry.Proofs.Telemetry.Fields
import UpsTelemetry.Proofs.Text.Hex

/-!
# Which warnings are reported

The reader goes through the table of warnings and reads one field after the other. What it comes to
is said here without a reader: the positions whose code is one of four, and the names that stand
there (`reported`).

* `ofReply_eq_ok_iff`: the names that are read are those.
* `collectFrom_eq`: a list with room for the whole table never drops a name.
* `mem_fields_iff`: the fields that are read are those of the positions with a warning.
* `exactly_the_active_warnings`: all of this of one reply.
-/

namespace UpsTelemetry.Warnings

open UpsTelemetry.Frame (headerLength)

/-! ## The warnings in some bytes -/

/-- A warning stands at this position of the frame. -/
def StandsAt (name : String) (position : Nat) : Prop :=
  table[position]? = some (some name)

/-- The code at a position: the value of the digits that its two characters begin with. -/
def codeAt (raw : Bytes) (position : Nat) : Nat :=
  Hex.positional (Hex.leadingDigits ((raw.drop (headerLength + offset position)).take 2))

/-- The codes of an active warning. -/
def activeCodes : List Nat :=
  [0x01, 0x02, 0x03, 0xF0]

/-- The names of `rest`, which stand at `position` and after it, where the code is an active one. -/
def reportedFrom (raw : Bytes) (position : Nat) (rest : List (Option String)) : List String :=
  ((rest.zipIdx position).filter fun entry => codeAt raw entry.2 ∈ activeCodes).filterMap Prod.fst

/-- The names of the table where the code is an active one, in its order. -/
def reported (raw : Bytes) : List String :=
  reportedFrom raw 0 table

/-- A field is active if its code is one of the four. -/
theorem isActive_iff {field : UInt8} : isActive field = true ↔ field.toNat ∈ activeCodes := by
  simp only [isActive, activeCodes, Bool.or_eq_true, beq_iff_eq, ← UInt8.toNat_inj, List.mem_cons,
    List.not_mem_nil, or_false, or_assoc]
  rfl

/-- A byte that could be read at a position is the code there. -/
theorem codeAt_of_byte {reply : Reply} {position : Nat} {field : UInt8}
    (read : reply.byte (offset position) = .ok field) :
    codeAt reply.raw position = field.toNat := by
  by_cases fits : (Field.byte (offset position)).Fits reply
  · have chars := Reply.info_of_fits fits
    rw [Reply.byte, show reply.info (offset position) 2 = _ from chars] at read
    obtain rfl := Except.ok.inj read
    exact (Hex.toNat_leadingByte (List.length_take_le _ _)).symm
  · have missing := Reply.info_of_not_fits fits
    rw [Reply.byte, show reply.info (offset position) 2 = _ from missing] at read
    cases read

/-- A position with a name reports it if its code is an active one. -/
theorem reportedFrom_some (raw : Bytes) (position : Nat) (name : String)
    (rest : List (Option String)) :
    reportedFrom raw position (some name :: rest) =
      if codeAt raw position ∈ activeCodes then name :: reportedFrom raw (position + 1) rest
      else reportedFrom raw (position + 1) rest := by
  simp only [reportedFrom, List.zipIdx_cons, List.filter_cons, decide_eq_true_eq]
  split <;> simp

/-- A position without a name reports nothing. -/
theorem reportedFrom_none (raw : Bytes) (position : Nat) (rest : List (Option String)) :
    reportedFrom raw position (none :: rest) = reportedFrom raw (position + 1) rest := by
  simp only [reportedFrom, List.zipIdx_cons, List.filter_cons, decide_eq_true_eq]
  split <;> simp

/-- The names that are read are those that the codes report. -/
theorem activeFrom_eq_of_ok {reply : Reply} {position : Nat} {rest : List (Option String)}
    {names : List String} (came : activeFrom reply position rest = .ok names) :
    names = reportedFrom reply.raw position rest := by
  induction rest generalizing position names with
  | nil => exact (Except.ok.inj came).symm
  | cons entry rest ih =>
    cases entry with
    | none => rw [reportedFrom_none, ← ih came]
    | some name =>
      unfold activeFrom at came
      cases read : reply.byte (offset position) with
      | error fault => rw [read] at came; cases came
      | ok field =>
        cases followed : activeFrom reply (position + 1) rest with
        | error fault => rw [read, followed] at came; cases came
        | ok others =>
          rw [read, followed] at came
          obtain rfl := Except.ok.inj came
          rw [reportedFrom_some, codeAt_of_byte read, ← ih followed]
          simp only [isActive_iff]

/-- Names that are reported are names of the table, in its order. -/
theorem reported_sublist (raw : Bytes) : (reported raw).Sublist (table.filterMap id) := by
  have all : table.filterMap id = table.zipIdx.filterMap Prod.fst := by decide
  rw [all]
  exact List.filter_sublist.filterMap Prod.fst

/-- No warning is reported twice. -/
theorem nodup_reported (raw : Bytes) : (reported raw).Nodup :=
  (reported_sublist raw).nodup (by decide)

/-- A name is reported exactly if it stands at a position with an active code. -/
theorem mem_reported_iff {raw : Bytes} {name : String} :
    name ∈ reported raw ↔
      ∃ position, StandsAt name position ∧ codeAt raw position ∈ activeCodes := by
  simp only [reported, reportedFrom, List.mem_filterMap, List.mem_filter, decide_eq_true_eq,
    List.mem_zipIdx_iff_getElem?, Prod.exists, StandsAt]
  constructor
  · rintro ⟨entry, position, ⟨stands, active⟩, rfl⟩
    exact ⟨position, stands, active⟩
  · rintro ⟨position, stands, active⟩
    exact ⟨some name, position, ⟨stands, active⟩, rfl⟩

/-! ## A list with a limit -/

/-- The names with one more behind them, if there is room for it. Else it is dropped. -/
def push (room : Nat) (names : List String) (name : String) : List String :=
  if names.length < room then names ++ [name] else names

/-- Puts the active ones among the warnings of `rest`, which stand at `position` and after it,
behind the names that have been found. -/
def collectFrom (room : Nat) (reply : Reply) (position : Nat) (found : List String) :
    List (Option String) → Except FrameError (List String)
  | [] => .ok found
  | none :: rest => collectFrom room reply (position + 1) found rest
  | some name :: rest => do
    let field ← reply.byte (offset position)
    let found' := if isActive field then push room found name else found
    collectFrom room reply (position + 1) found' rest

/-- As long as there is room for all names to come, none of them is dropped. -/
theorem collectFrom_eq {room : Nat} {reply : Reply} {position : Nat} {found : List String}
    {rest : List (Option String)} (fits : found.length + rest.length ≤ room) :
    collectFrom room reply position found rest =
      (activeFrom reply position rest).map (found ++ ·) := by
  induction rest generalizing position found with
  | nil => simp [collectFrom, activeFrom, Except.map]
  | cons entry rest ih =>
    rw [List.length_cons] at fits
    cases entry with
    | none =>
      rw [collectFrom, activeFrom]
      exact ih (by omega)
    | some name =>
      have pushed : push room found name = found ++ [name] := if_pos (by omega)
      rw [collectFrom, activeFrom]
      cases reply.byte (offset position) with
      | error fault => rfl
      | ok field =>
        have followed {found : List String} (fits : found.length + rest.length ≤ room) :
            collectFrom room reply (position + 1) found rest =
              (activeFrom reply (position + 1) rest).map (found ++ ·) := ih fits
        by_cases active : isActive field = true
        · have grown : (found ++ [name]).length + rest.length ≤ room := by
            rw [List.length_append, List.length_singleton]
            omega
          simp only [bind, Except.bind, active, if_true, pushed, followed grown]
          cases activeFrom reply (position + 1) rest <;> simp [Except.map, pure, Except.pure]
        · have kept : found.length + rest.length ≤ room := by omega
          simp only [bind, Except.bind, active, if_false, followed kept, Bool.false_eq_true]
          cases activeFrom reply (position + 1) rest <;> rfl

/-! ## The fields that are read -/

/-- The fields are those of the positions that have a name, in order. -/
theorem fieldsFrom_eq (position : Nat) (rest : List (Option String)) :
    fieldsFrom position rest =
      (rest.zipIdx position).filterMap fun entry =>
        entry.1.map fun _ => Field.byte (offset entry.2) := by
  induction rest generalizing position with
  | nil => rfl
  | cons entry rest ih => cases entry <;> simp [fieldsFrom, List.zipIdx_cons, ih]

/-- The fields that are read are those of the positions with a warning. -/
theorem mem_fields_iff {field : Field} :
    field ∈ fields ↔ ∃ name position, StandsAt name position ∧ field = .byte (offset position) := by
  simp only [fields, fieldsFrom_eq, List.mem_filterMap, Prod.exists, List.mem_zipIdx_iff_getElem?,
    StandsAt]
  constructor
  · rintro ⟨entry, position, stands, read⟩
    obtain ⟨name, rfl, rfl⟩ := Option.map_eq_some_iff.1 read
    exact ⟨name, position, stands, rfl⟩
  · rintro ⟨name, position, stands, rfl⟩
    exact ⟨some name, position, stands, rfl⟩

/-- The fields come in the order in which they stand in INFO. -/
theorem sorted_fields : fields.Pairwise fun first second => first.offset ≤ second.offset := by
  decide

/-! ## Reports of replies -/

/-- The names are read if the last field was received, and then they are those reported. -/
theorem ofReply_eq_ok_iff {reply : Reply} {names : List String} :
    ofReply reply = .ok names ↔
      headerLength + 54 ≤ reply.raw.length ∧ names = reported reply.raw := by
  have enough : (∃ names, ofReply reply = .ok names) ↔ headerLength + 54 ≤ reply.raw.length :=
    (readsFields_ofReply.exists_ok_iff reply).trans (Field.forall_fits_iff (by decide) reply)
  constructor
  · intro came
    exact ⟨enough.1 ⟨names, came⟩, activeFrom_eq_of_ok came⟩
  · rintro ⟨long, rfl⟩
    obtain ⟨names, came⟩ := enough.2 long
    rw [came, activeFrom_eq_of_ok came]
    rfl

/-- Reading fails at the first position with a warning that was not received. -/
theorem ofReply_eq_error_iff {reply : Reply} {fault : FrameError} :
    ofReply reply = .error fault ↔
      ∃ name position, StandsAt name position ∧
        reply.raw.length < headerLength + offset position + 2 ∧
        (∀ other earlier, StandsAt other earlier → earlier < position →
          headerLength + offset earlier + 2 ≤ reply.raw.length) ∧
        fault = .fieldOutOfRange (offset position) := by
  rw [readsFields_ofReply.error_iff sorted_fields]
  constructor
  · rintro ⟨field, first, rfl⟩
    obtain ⟨name, position, stands, rfl⟩ := mem_fields_iff.1 first.mem
    refine ⟨name, position, stands, Nat.not_le.1 first.misfit, ?_, rfl⟩
    intro other earlier stands' before
    by_contra missing
    have later := first.least _ (mem_fields_iff.2 ⟨other, earlier, stands', rfl⟩) missing
    simp only [Field.byte, offset] at later
    omega
  · rintro ⟨name, position, stands, missing, before, rfl⟩
    refine ⟨.byte (offset position), ⟨mem_fields_iff.2 ⟨name, position, stands, rfl⟩,
      Nat.not_le.2 missing, ?_⟩, rfl⟩
    intro field mem misfit
    obtain ⟨other, earlier, stands', rfl⟩ := mem_fields_iff.1 mem
    have notBefore : position ≤ earlier := by
      by_contra earlierOne
      exact misfit (before other earlier stands' (Nat.not_le.1 earlierOne))
    simp only [Field.byte, offset]
    omega

/-- Only the characters at positions with a warning have influence. -/
theorem ofReply_congr {first second : Reply}
    (agree : ∀ name position, StandsAt name position →
      first.raw.slice? (headerLength + offset position) 2 =
        second.raw.slice? (headerLength + offset position) 2) :
    ofReply first = ofReply second := by
  refine readsFields_ofReply.congr first second fun field mem => ?_
  obtain ⟨name, position, stands, rfl⟩ := mem_fields_iff.1 mem
  simp only [Reply.info, Field.byte, agree name position stands]

/-- The positions without a warning: that of the flag, and two that are free. -/
theorem reserved_iff {position : Nat} :
    table[position]? = some none ↔ position = 0 ∨ position = 7 ∨ position = 8 := by
  by_cases inside : position < 26
  · have each : ∀ position : Fin 26, table[position.val]? = some none ↔
        position.val = 0 ∨ position.val = 7 ∨ position.val = 8 := by decide
    exact each ⟨position, inside⟩
  · rw [List.getElem?_eq_none (Nat.not_lt.1 inside)]
    simp only [reduceCtorEq, false_iff]
    omega

/-- **Exactly the active warnings are reported.** They can be read exactly if the last field was
received, and then the names are those of the table, in its order, where the code is an active one:
each once and none left out, though the list that collects them has a limit. If they cannot be read,
the error is the offset of the first position with a warning that was not received. Nothing but the
characters at the positions with a warning has influence on either, so the positions 0, 7 and 8 have
none. -/
theorem exactly_the_active_warnings (reply : Reply) :
    (∀ names, ofReply reply = .ok names ↔
      headerLength + 54 ≤ reply.raw.length ∧ names = reported reply.raw) ∧
    ((reported reply.raw).Sublist (table.filterMap id) ∧ (reported reply.raw).Nodup ∧
      ∀ name, name ∈ reported reply.raw ↔
        ∃ position, StandsAt name position ∧
          codeAt reply.raw position ∈ [0x01, 0x02, 0x03, 0xF0]) ∧
    collectFrom table.length reply 0 [] table = ofReply reply ∧
    (∀ fault, ofReply reply = .error fault ↔
      ∃ name position, StandsAt name position ∧
        reply.raw.length < headerLength + (2 + 2 * position) + 2 ∧
        (∀ other earlier, StandsAt other earlier → earlier < position →
          headerLength + (2 + 2 * earlier) + 2 ≤ reply.raw.length) ∧
        fault = .fieldOutOfRange (2 + 2 * position)) ∧
    (∀ position, table[position]? = some none ↔ position = 0 ∨ position = 7 ∨ position = 8) ∧
    ∀ other : Reply,
      (∀ name position, StandsAt name position →
        reply.raw.slice? (headerLength + (2 + 2 * position)) 2 =
          other.raw.slice? (headerLength + (2 + 2 * position)) 2) →
      ofReply reply = ofReply other := by
  have collected : collectFrom table.length reply 0 [] table =
      (ofReply reply).map ([] ++ ·) := collectFrom_eq (Nat.le_of_eq (Nat.zero_add _))
  refine ⟨fun names => ofReply_eq_ok_iff,
    ⟨reported_sublist _, nodup_reported _, fun name => mem_reported_iff⟩, ?_,
    fun fault => ofReply_eq_error_iff, fun position => reserved_iff,
    fun other agree => ofReply_congr agree⟩
  rw [collected]
  cases ofReply reply <;> rfl

/-- A frame that ends inside position 7 lacks the fields from position 9 on. -/
example : ofReply ⟨List.replicate 30 0x30⟩ = .error (.fieldOutOfRange 20) := by decide

end UpsTelemetry.Warnings
