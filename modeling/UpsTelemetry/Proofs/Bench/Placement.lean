import UpsTelemetry.Bench.SimulatedUps

/-!
# Fields written into an INFO

An INFO for a simulated UPS is some filler with fields written over it (`place`, `placeAll`).
Writing a field keeps the length, puts the field where it belongs and leaves every window beside it
alone. So fields that do not overlap can all be read back, whatever their order and the filler
(`window_placeAll`).
-/

namespace UpsTelemetry.SimulatedUps

variable {info field : Bytes} {offset : Nat}

/-- The characters of a window of an INFO. -/
def window (offset width : Nat) (info : Bytes) : Bytes :=
  (info.drop offset).take width

/-! ## One field -/

/-- Writing a field over others makes nothing longer. -/
theorem length_place (inside : offset + field.length ≤ info.length) :
    (place offset field info).length = info.length := by
  simp only [place, List.length_append, List.length_take, List.length_drop]
  omega

/-- A field stands where it was written. -/
theorem window_place (inside : offset + field.length ≤ info.length) :
    window offset field.length (place offset field info) = field := by
  have length_front : (info.take offset).length = offset := by
    rw [List.length_take]
    omega
  unfold window place
  rw [List.append_assoc, List.drop_left' length_front, List.take_left]

/-- What stands beside a field is not touched. -/
theorem window_place_apart (inside : offset + field.length ≤ info.length) {other width : Nat}
    (apart : other + width ≤ offset ∨ offset + field.length ≤ other) :
    window other width (place offset field info) = window other width info := by
  have length_front : (info.take offset).length = offset := by
    rw [List.length_take]
    omega
  unfold window place
  rcases apart with before | behind
  · rw [List.append_assoc, List.drop_append_of_le_length (by omega),
      List.take_append_of_le_length (by rw [List.length_drop]; omega), List.drop_take,
      List.take_take, Nat.min_eq_left (by omega)]
  · rw [List.drop_append, List.drop_eq_nil_of_le (by rw [List.length_append]; omega),
      List.nil_append, List.drop_drop, List.length_append, length_front]
    congr 2
    omega

/-- Every character comes from the field or from what was there. -/
theorem mem_place {char : UInt8} (mem : char ∈ place offset field info) :
    char ∈ field ∨ char ∈ info := by
  unfold place at mem
  rcases List.mem_append.1 mem with front | behind
  · rcases List.mem_append.1 front with front | here
    · exact .inr (List.mem_of_mem_take front)
    · exact .inl here
  · exact .inr (List.mem_of_mem_drop behind)

/-! ## Several fields -/

/-- An INFO with fields written over it, one after the other, as `infoWith` writes them over
zeros. -/
def placeAll (fields : List (Nat × Bytes)) (info : Bytes) : Bytes :=
  fields.foldl (fun info field => place field.1 field.2 info) info

/-- A window and a field written at some offset do not overlap. -/
def Apart (offset width : Nat) (field : Nat × Bytes) : Prop :=
  offset + width ≤ field.1 ∨ field.1 + field.2.length ≤ offset

instance (offset width : Nat) (field : Nat × Bytes) : Decidable (Apart offset width field) :=
  inferInstanceAs (Decidable (_ ∨ _))

variable {fields : List (Nat × Bytes)}
  (inside : ∀ field ∈ fields, field.1 + field.2.length ≤ info.length)

include inside

/-- Neither does writing several. -/
theorem length_placeAll : (placeAll fields info).length = info.length := by
  induction fields generalizing info with
  | nil => rfl
  | cons field rest ih =>
    obtain ⟨here, later⟩ := List.forall_mem_cons.1 inside
    have kept := length_place here
    show (placeAll rest (place field.1 field.2 info)).length = _
    rw [ih (by rw [kept]; exact later), kept]

/-- What stands beside all fields is not touched. -/
theorem window_placeAll_apart {offset width : Nat}
    (apart : ∀ field ∈ fields, Apart offset width field) :
    window offset width (placeAll fields info) = window offset width info := by
  induction fields generalizing info with
  | nil => rfl
  | cons field rest ih =>
    obtain ⟨here, later⟩ := List.forall_mem_cons.1 inside
    obtain ⟨beside, others⟩ := List.forall_mem_cons.1 apart
    show window _ _ (placeAll rest (place field.1 field.2 info)) = _
    rw [ih (by rw [length_place here]; exact later) others, window_place_apart here beside]

/-- Every field stands where it was written, if none was written over another. -/
theorem window_placeAll
    (apart : fields.Pairwise fun first second => Apart first.1 first.2.length second)
    {field : Nat × Bytes} (mem : field ∈ fields) :
    window field.1 field.2.length (placeAll fields info) = field.2 := by
  -- By induction on the fields still to be written: none of them touches those before.
  induction fields generalizing info with
  | nil => cases mem
  | cons first rest ih =>
    obtain ⟨here, later⟩ := List.forall_mem_cons.1 inside
    obtain ⟨beside, others⟩ := List.pairwise_cons.1 apart
    have later' : ∀ field ∈ rest, field.1 + field.2.length ≤
        (place first.1 first.2 info).length := by
      rw [length_place here]
      exact later
    show window _ _ (placeAll rest (place first.1 first.2 info)) = _
    rcases List.mem_cons.1 mem with rfl | mem
    · rw [window_placeAll_apart later' beside, window_place here]
    · exact ih later' others mem

omit inside

/-- Every character comes from a field or from the filler. -/
theorem mem_placeAll {char : UInt8} (mem : char ∈ placeAll fields info) :
    (∃ field ∈ fields, char ∈ field.2) ∨ char ∈ info := by
  induction fields generalizing info with
  | nil => exact .inr mem
  | cons field rest ih =>
    rcases ih mem with ⟨other, later, inside⟩ | mem
    · exact .inl ⟨other, List.mem_cons_of_mem _ later, inside⟩
    · rcases mem_place mem with here | filler
      · exact .inl ⟨field, List.mem_cons_self, here⟩
      · exact .inr filler

end UpsTelemetry.SimulatedUps
