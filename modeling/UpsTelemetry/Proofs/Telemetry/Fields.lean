import UpsTelemetry.Telemetry.Report

/-!
# Which fields a reader reads

A reader of replies takes some fields out of INFO, one after the other. `ReadsFields` says that it
does this and nothing else: it fails at the first field that was not received, it has no other
reason to fail, and what it yields depends on the characters of those fields only. Readers put
together by `do` read the fields of their parts (`ReadsFields.bind`), so the fields of a record are
its accessors written down once.

* `ReadsFields.error_iff`: of fields in the order of their offsets, the one at which a reader fails
  is the one that stands first among those that were not received.
* `PollState.fields`: the fields of the frame that a poll state asks for.
* `Report.readsFields_ofReply`: a report comes from them, in every state.
-/

namespace UpsTelemetry

open UpsTelemetry.Frame (headerLength)

/-! ## Fields -/

/-- A field of INFO. -/
structure Field where
  /-- Where it stands in INFO. -/
  offset : Nat
  /-- How many characters it has. -/
  width : Nat
deriving DecidableEq, Repr

namespace Field

/-- The field of a byte. -/
def byte (offset : Nat) : Field := ⟨offset, 2⟩

/-- The field of a word. -/
def word (offset : Nat) : Field := ⟨offset, 4⟩

/-- All characters of the field were received. -/
def Fits (field : Field) (reply : Reply) : Prop :=
  headerLength + field.offset + field.width ≤ reply.raw.length

instance (field : Field) (reply : Reply) : Decidable (field.Fits reply) :=
  inferInstanceAs (Decidable (_ ≤ _))

/-- The shortest INFO that holds all of some fields. -/
def extent : List Field → Nat
  | [] => 0
  | field :: rest => max (field.offset + field.width) (extent rest)

/-- Fields reach no further than the farthest of them. -/
theorem extent_le_iff {fields : List Field} {length : Nat} :
    extent fields ≤ length ↔ ∀ field ∈ fields, field.offset + field.width ≤ length := by
  induction fields with
  | nil => simp [extent]
  | cons field rest ih => simp only [extent, Nat.max_le, ih, List.forall_mem_cons]

/-- All of some fields were received if enough bytes were. -/
theorem forall_fits_iff {fields : List Field} (some : fields ≠ []) (reply : Reply) :
    (∀ field ∈ fields, field.Fits reply) ↔
      headerLength + extent fields ≤ reply.raw.length := by
  constructor
  · intro fits
    obtain ⟨first, mem⟩ := List.exists_mem_of_ne_nil fields some
    have header : headerLength ≤ reply.raw.length := by
      have := fits first mem
      unfold Fits at this
      omega
    have bound : extent fields ≤ reply.raw.length - headerLength := by
      rw [extent_le_iff]
      intro field mem
      have := fits field mem
      unfold Fits at this
      omega
    omega
  · intro enough field mem
    have inside := extent_le_iff.1 (Nat.le_refl (extent fields)) field mem
    unfold Fits
    omega

/-- A field was not received, and none of those that were not stands before it. -/
structure FirstMissing (fields : List Field) (reply : Reply) (field : Field) : Prop where
  /-- It is one of the fields. -/
  mem : field ∈ fields
  /-- It was not received. -/
  misfit : ¬ field.Fits reply
  /-- It stands first. -/
  least : ∀ other ∈ fields, ¬ other.Fits reply → field.offset ≤ other.offset

/-- Fields in the order of their offsets: the first in their list is the one that stands first. -/
theorem firstMissing_of_find? {fields : List Field}
    (sorted : fields.Pairwise fun first second => first.offset ≤ second.offset) {reply : Reply}
    {field : Field} (found : fields.find? (fun field => ¬ field.Fits reply) = some field) :
    FirstMissing fields reply field := by
  have misfit : ¬ field.Fits reply := by simpa using List.find?_some found
  obtain ⟨-, before, after, rfl, fit⟩ := List.find?_eq_some_iff_append.1 found
  obtain ⟨-, later, -⟩ := List.pairwise_append.1 sorted
  refine ⟨List.mem_of_find?_eq_some found, misfit, fun other mem missing => ?_⟩
  rcases List.mem_append.1 mem with earlier | mem
  · exact absurd (by simpa using fit other earlier) missing
  · rcases List.mem_cons.1 mem with rfl | mem
    · exact Nat.le_refl _
    · exact List.rel_of_pairwise_cons later mem

end Field

/-- A field inside a reply is read as it stands. -/
theorem Reply.info_of_fits {reply : Reply} {field : Field} (fits : field.Fits reply) :
    reply.info field.offset field.width =
      .ok ((reply.raw.drop (headerLength + field.offset)).take field.width) := by
  have cut := Bytes.slice?_eq_some_iff.2 ⟨fits, rfl⟩
  unfold Reply.info
  rw [cut]

/-- A field that is not inside is reported by its offset. -/
theorem Reply.info_of_not_fits {reply : Reply} {field : Field} (misfit : ¬ field.Fits reply) :
    reply.info field.offset field.width = .error (.fieldOutOfRange field.offset) := by
  have cut : reply.raw.slice? (headerLength + field.offset) field.width = none :=
    Bytes.slice?_eq_none_iff.2 (Nat.not_le.1 misfit)
  unfold Reply.info
  rw [cut]

/-- The characters of a field are the same whatever comes behind the bytes that hold it. -/
theorem Reply.info_append {front : Bytes} {field : Field} (fits : field.Fits ⟨front⟩)
    (behind : Bytes) :
    Reply.info ⟨front ++ behind⟩ field.offset field.width =
      Reply.info ⟨front⟩ field.offset field.width := by
  have inside : headerLength + field.offset + field.width ≤ front.length := fits
  have fits' : field.Fits ⟨front ++ behind⟩ := by
    unfold Field.Fits
    rw [List.length_append]
    omega
  rw [info_of_fits fits, info_of_fits fits']
  dsimp only
  rw [List.drop_append_of_le_length (by omega),
    List.take_append_of_le_length (by rw [List.length_drop]; omega)]

/-! ## Readers -/

/-- A reader of replies reads these fields, in this order, and nothing else. -/
structure ReadsFields {α : Type} (read : Reply → Except FrameError α) (fields : List Field) :
    Prop where
  /-- Nothing in the fields makes it fail. -/
  ok_of_fits : ∀ reply, (∀ field ∈ fields, field.Fits reply) → ∃ value, read reply = .ok value
  /-- It fails at the first field that was not received. -/
  error_of_misfit : ∀ reply field,
    fields.find? (fun field => ¬ field.Fits reply) = some field →
      read reply = .error (.fieldOutOfRange field.offset)
  /-- What it yields depends on the characters of the fields. -/
  congr : ∀ first second : Reply,
    (∀ field ∈ fields,
      first.info field.offset field.width = second.info field.offset field.width) →
    read first = read second

namespace ReadsFields

variable {α β : Type} {read : Reply → Except FrameError α} {fields : List Field}

/-- The fields of a reply, one of them or all, are there to be read. -/
theorem exists_ok_iff (reads : ReadsFields read fields) (reply : Reply) :
    (∃ value, read reply = .ok value) ↔ ∀ field ∈ fields, field.Fits reply := by
  refine ⟨fun ⟨value, came⟩ => ?_, reads.ok_of_fits reply⟩
  have found : fields.find? (fun field => ¬ field.Fits reply) = none := by
    rw [Option.eq_none_iff_forall_not_mem]
    intro field mem
    rw [reads.error_of_misfit reply field mem] at came
    cases came
  simpa using found

/-- A reader that fails does so at a field. -/
theorem exists_offset (reads : ReadsFields read fields) {reply : Reply} {fault : FrameError}
    (failed : read reply = .error fault) : ∃ offset, fault = .fieldOutOfRange offset := by
  cases found : fields.find? (fun field => ¬ field.Fits reply) with
  | some field =>
    rw [reads.error_of_misfit reply field found] at failed
    exact ⟨field.offset, (Except.error.inj failed).symm⟩
  | none =>
    obtain ⟨value, came⟩ := reads.ok_of_fits reply (by simpa using found)
    cases failed.symm.trans came

/-- A reader of fields in the order of their offsets fails at the one that stands first among those
that were not received. -/
theorem error_iff (reads : ReadsFields read fields)
    (sorted : fields.Pairwise fun first second => first.offset ≤ second.offset) (reply : Reply)
    (fault : FrameError) :
    read reply = .error fault ↔
      ∃ field, Field.FirstMissing fields reply field ∧ fault = .fieldOutOfRange field.offset := by
  constructor
  · intro failed
    cases found : fields.find? (fun field => ¬ field.Fits reply) with
    | some field =>
      rw [reads.error_of_misfit reply field found] at failed
      exact ⟨field, Field.firstMissing_of_find? sorted found, (Except.error.inj failed).symm⟩
    | none =>
      obtain ⟨value, came⟩ := reads.ok_of_fits reply (by simpa using found)
      cases failed.symm.trans came
  · rintro ⟨field, first, rfl⟩
    cases found : fields.find? (fun field => ¬ field.Fits reply) with
    | some field' =>
      have first' := Field.firstMissing_of_find? sorted found
      have same : field'.offset = field.offset :=
        Nat.le_antisymm (first'.least field first.mem first.misfit)
          (first.least field' first'.mem first'.misfit)
      rw [reads.error_of_misfit reply field' found, same]
    | none =>
      have fit : ∀ field ∈ fields, field.Fits reply := by simpa using found
      exact absurd (fit field first.mem) first.misfit

/-- What comes behind the fields does not matter. -/
theorem append (reads : ReadsFields read fields) {front : Bytes}
    (fits : ∀ field ∈ fields, field.Fits ⟨front⟩) (behind : Bytes) :
    read ⟨front ++ behind⟩ = read ⟨front⟩ :=
  reads.congr _ _ fun field mem => Reply.info_append (fits field mem) behind

/-- A reader that reads nothing has no fields. -/
theorem pure (value : α) : ReadsFields (fun _ => .ok value) [] where
  ok_of_fits _ _ := ⟨value, rfl⟩
  error_of_misfit _ _ found := by cases found
  congr _ _ _ := rfl

/-- A field is read by itself. -/
theorem info (field : Field) :
    ReadsFields (fun reply => reply.info field.offset field.width) [field] where
  ok_of_fits _ fits := ⟨_, Reply.info_of_fits (fits field (List.mem_singleton_self _))⟩
  error_of_misfit reply other found := by
    obtain rfl := List.mem_singleton.1 (List.mem_of_find?_eq_some found)
    exact Reply.info_of_not_fits (by simpa using List.find?_some found)
  congr _ _ same := same field (List.mem_singleton_self _)

/-- What is made of the value makes no difference to the fields. -/
theorem map (reads : ReadsFields read fields) (f : α → β) :
    ReadsFields (fun reply => (read reply).map f) fields where
  ok_of_fits reply fits := by
    obtain ⟨value, came⟩ := reads.ok_of_fits reply fits
    exact ⟨f value, by rw [came]; rfl⟩
  error_of_misfit reply field found := by
    rw [reads.error_of_misfit reply field found]
    rfl
  congr first second same := by rw [reads.congr first second same]

/-- One reader after the other reads the fields of both. -/
theorem bind {next : α → Reply → Except FrameError β} {more : List Field}
    (reads : ReadsFields read fields) (goesOn : ∀ value, ReadsFields (next value) more) :
    ReadsFields (fun reply => read reply >>= fun value => next value reply) (fields ++ more) where
  ok_of_fits reply fits := by
    obtain ⟨value, came⟩ := reads.ok_of_fits reply fun field mem =>
      fits field (List.mem_append_left _ mem)
    obtain ⟨result, followed⟩ := (goesOn value).ok_of_fits reply fun field mem =>
      fits field (List.mem_append_right _ mem)
    exact ⟨result, by rw [came]; exact followed⟩
  error_of_misfit reply field found := by
    rw [List.find?_append, Option.or_eq_some_iff] at found
    rcases found with found | ⟨none, found⟩
    · rw [reads.error_of_misfit reply field found]
      rfl
    · obtain ⟨value, came⟩ := reads.ok_of_fits reply (by simpa using none)
      rw [came]
      exact (goesOn value).error_of_misfit reply field found
  congr first second same := by
    have head := reads.congr first second fun field mem =>
      same field (List.mem_append_left _ mem)
    have tail (value : α) := (goesOn value).congr first second fun field mem =>
      same field (List.mem_append_right _ mem)
    simp only [head, tail]

/-- A byte is one field of two characters. -/
theorem byte (offset : Nat) : ReadsFields (fun reply => reply.byte offset) [.byte offset] :=
  (info (.byte offset)).map Hex.leadingByte

/-- A word is one field of four. -/
theorem word (offset : Nat) : ReadsFields (fun reply => reply.word offset) [.word offset] :=
  (info (.word offset)).map Hex.leadingWord

end ReadsFields

/-! ## Records -/

/-- The fields of the on/off frame that are read. -/
def OnOffStatus.fields : List Field :=
  [.byte DataFlag.offset, .byte supplyAt, .byte rectifierAt, .byte chargerAt, .byte batteryTestAt]

/-- The on/off record is read from its fields. -/
theorem OnOffStatus.readsFields_ofReply : ReadsFields ofReply fields :=
  (ReadsFields.byte _).bind fun _ => (ReadsFields.byte _).bind fun _ =>
    (ReadsFields.byte _).bind fun _ => (ReadsFields.byte _).bind fun _ =>
      (ReadsFields.byte _).bind fun _ => ReadsFields.pure _

/-- The fields of the analog frame that are read. -/
def AnalogReading.fields : List Field :=
  [.byte DataFlag.offset, .word inputVoltageAt, .word outputVoltageAt, .word outputCurrentAt,
    .word batteryVoltageAt, .word outputFrequencyAt, .word inputFrequencyAt, .word realPowerAt,
    .word apparentPowerAt, .word backupTimeAt]

/-- So is the analog record. -/
theorem AnalogReading.readsFields_ofReply : ReadsFields ofReply fields :=
  (ReadsFields.byte _).bind fun _ => (ReadsFields.word _).bind fun _ =>
    (ReadsFields.word _).bind fun _ => (ReadsFields.word _).bind fun _ =>
      (ReadsFields.word _).bind fun _ => (ReadsFields.word _).bind fun _ =>
        (ReadsFields.word _).bind fun _ => (ReadsFields.word _).bind fun _ =>
          (ReadsFields.word _).bind fun _ => (ReadsFields.word _).bind fun _ => ReadsFields.pure _

/-- The fields of the system parameter frame that are read. -/
def SystemParameters.fields : List Field :=
  [.word nominalVoltageAt, .word nominalFrequencyAt, .word bypassHighAt, .word bypassLowAt,
    .word testIntervalAt]

/-- So is the record of the parameters. -/
theorem SystemParameters.readsFields_ofReply : ReadsFields ofReply fields :=
  (ReadsFields.word _).bind fun _ => (ReadsFields.word _).bind fun _ =>
    (ReadsFields.word _).bind fun _ => (ReadsFields.word _).bind fun _ =>
      (ReadsFields.word _).bind fun _ => ReadsFields.pure _

namespace Warnings

/-- The fields of the warnings of `rest`, which stand at `position` and after it. -/
def fieldsFrom (position : Nat) : List (Option String) → List Field
  | [] => []
  | none :: rest => fieldsFrom (position + 1) rest
  | some _ :: rest => .byte (offset position) :: fieldsFrom (position + 1) rest

/-- The fields of the warning frame that are read: none at a reserved position. -/
def fields : List Field :=
  fieldsFrom 0 table

/-- Warnings are read from the fields of the positions that have a name. -/
theorem readsFields_activeFrom (position : Nat) (rest : List (Option String)) :
    ReadsFields (fun reply => activeFrom reply position rest) (fieldsFrom position rest) := by
  induction rest generalizing position with
  | nil => exact ReadsFields.pure []
  | cons entry rest ih =>
    cases entry with
    | none => exact ih (position + 1)
    | some name =>
      exact (ReadsFields.byte _).bind fun field => (ih (position + 1)).map fun others =>
        if isActive field then name :: others else others

/-- So all warnings are. -/
theorem readsFields_ofReply : ReadsFields ofReply fields :=
  readsFields_activeFrom 0 table

end Warnings

/-- The fields that are read of the frame a state asks for. -/
def PollState.fields : PollState → List Field
  | onOff => OnOffStatus.fields
  | analog => AnalogReading.fields
  | warning => Warnings.fields
  | parameters => SystemParameters.fields

/-- A report comes from the fields of its state. -/
theorem Report.readsFields_ofReply (state : PollState) (hasStatus : String → Bool) :
    ReadsFields (Report.ofReply state hasStatus) state.fields := by
  cases state with
  | onOff => exact OnOffStatus.readsFields_ofReply.map _
  | analog => exact AnalogReading.readsFields_ofReply.map _
  | warning => exact Warnings.readsFields_ofReply.map _
  | parameters => exact SystemParameters.readsFields_ofReply.map _

end UpsTelemetry
