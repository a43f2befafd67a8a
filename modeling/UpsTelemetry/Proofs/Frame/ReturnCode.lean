import UpsTelemetry.Frame.Reply
import UpsTelemetry.Proofs.Text.Hex

/-!
# What a return code is read as

A reply carries its return code in two characters (`CodeText`). If both are digits, the reply
reports their number (`Reports`), and that is what is read. If not, the digits in front of the first
other character are read, so characters that are no number may be read as zero, which is the code of
success (`ReadsAsZero`).
-/

namespace UpsTelemetry

/-- Two bytes are cut out as they stand. -/
theorem Bytes.slice?_two_eq_some_iff {bytes : Bytes} {start : Nat} {first second : UInt8} :
    bytes.slice? start 2 = some [first, second] ↔
      bytes[start]? = some first ∧ bytes[start + 1]? = some second := by
  rw [slice?_eq_some_iff]
  constructor
  · rintro ⟨-, cut⟩
    have head := congrArg (fun piece => piece[0]?) cut
    have tail := congrArg (fun piece => piece[1]?) cut
    simp only [List.getElem?_take, List.getElem?_drop] at head tail
    exact ⟨head, tail⟩
  · rintro ⟨head, tail⟩
    obtain ⟨_, _⟩ := List.getElem?_eq_some_iff.1 head
    obtain ⟨inside, _⟩ := List.getElem?_eq_some_iff.1 tail
    refine ⟨inside, List.ext_getElem? fun position => ?_⟩
    rw [List.getElem?_take, List.getElem?_drop]
    match position with
    | 0 => simpa using head
    | 1 => simpa using tail
    | position + 2 => rw [if_neg (by omega), List.getElem?_eq_none (by simp)]

namespace Hex

/-- Two characters are read as zero: the digits that they begin with are all zeros. -/
inductive ReadsAsZero : (high low : UInt8) → Prop
  /-- They are the text of zero. -/
  | zero : ReadsAsZero 0x30 0x30
  /-- A zero stands before a character that is no digit. -/
  | strayLow {low : UInt8} (stray : isDigit low = false) : ReadsAsZero 0x30 low
  /-- The first is no digit, whatever follows. -/
  | strayHigh {high low : UInt8} (stray : isDigit high = false) : ReadsAsZero high low

/-- A return code reads as zero if it does not begin with a digit, or begins with `0` and goes on
with another `0` or with no digit. -/
theorem readsAsZero_iff {high low : UInt8} :
    ReadsAsZero high low ↔
      isDigit high = false ∨ high = 0x30 ∧ (low = 0x30 ∨ isDigit low = false) := by
  constructor
  · rintro (_ | stray | stray)
    · exact .inr ⟨rfl, .inl rfl⟩
    · exact .inr ⟨rfl, .inr stray⟩
    · exact .inl stray
  · rintro (stray | ⟨rfl, rfl | stray⟩)
    · exact .strayHigh stray
    · exact .zero
    · exact .strayLow stray

/-- What is not a digit has no value. -/
theorem digitValue?_eq_none_iff {char : UInt8} :
    digitValue? char = none ↔ isDigit char = false := by
  rw [isDigit, Option.isSome_eq_false_iff, Option.isNone_iff_eq_none]

/-- The number of two characters is zero exactly if they read as zero. -/
theorem leadingByte_eq_zero_iff {high low : UInt8} :
    leadingByte [high, low] = 0 ↔ ReadsAsZero high low := by
  rw [← UInt8.toNat_inj, toNat_leadingByte (by simp), readsAsZero_iff, ← digitValue?_eq_none_iff,
    ← digitValue?_eq_none_iff, ← digitValue?_eq_zero_iff, ← digitValue?_eq_zero_iff]
  cases first : digitValue? high with
  | none => simp [leadingDigits, first, positional]
  | some value =>
    cases second : digitValue? low with
    | none => simp [leadingDigits, first, second, positional, ← UInt8.toNat_inj]
    | some value' => simp [leadingDigits, first, second, positional, ← UInt8.toNat_inj]

end Hex

namespace Reply

open UpsTelemetry.Frame (returnCodeAt)

/-- The two characters of a reply's return code. -/
def CodeText (reply : Reply) (high low : UInt8) : Prop :=
  reply.raw[returnCodeAt]? = some high ∧ reply.raw[returnCodeAt + 1]? = some low

/-- The return code is the number of its two characters. -/
theorem CodeText.returnCode_eq {reply : Reply} {high low : UInt8} (text : reply.CodeText high low) :
    reply.returnCode = .ok (Hex.leadingByte [high, low]) := by
  unfold returnCode
  rw [Bytes.slice?_two_eq_some_iff.2 text]

/-- A reply that reaches so far has two characters for the return code. -/
theorem exists_codeText {reply : Reply} (whole : returnCodeAt + 2 ≤ reply.raw.length) :
    ∃ high low, reply.CodeText high low :=
  ⟨_, _, List.getElem?_eq_getElem (by omega), List.getElem?_eq_getElem (by omega)⟩

/-- A reply that is cut off before is too short. -/
theorem returnCode_of_cut {reply : Reply} (cut : reply.raw.length < returnCodeAt + 2) :
    reply.returnCode = .error (.shortRead (returnCodeAt + 2) reply.raw.length) := by
  unfold returnCode
  rw [Bytes.slice?_eq_none_iff.2 cut]

/-- A reply reports success to its reader exactly if its code is read as zero. -/
theorem returnCode_eq_zero_iff {reply : Reply} :
    reply.returnCode = .ok 0x00 ↔
      ∃ high low, reply.CodeText high low ∧ Hex.ReadsAsZero high low := by
  constructor
  · intro success
    by_cases whole : returnCodeAt + 2 ≤ reply.raw.length
    · obtain ⟨high, low, text⟩ := exists_codeText whole
      rw [text.returnCode_eq, Except.ok.injEq] at success
      exact ⟨high, low, text, Hex.leadingByte_eq_zero_iff.1 success⟩
    · rw [returnCode_of_cut (Nat.not_le.1 whole)] at success
      cases success
  · rintro ⟨high, low, text, reads⟩
    rw [text.returnCode_eq, Hex.leadingByte_eq_zero_iff.2 reads]

/-- The return code of a reply is the text of a number. -/
def Reports (reply : Reply) (code : UInt8) : Prop :=
  ∃ high low first second, reply.CodeText high low ∧ Hex.digitValue? high = some first ∧
    Hex.digitValue? low = some second ∧ code.toNat = 16 * first.toNat + second.toNat

/-- The number is what is read. -/
theorem Reports.returnCode_eq {reply : Reply} {code : UInt8} (reports : reply.Reports code) :
    reply.returnCode = .ok code := by
  obtain ⟨high, low, first, second, text, isFirst, isSecond, value⟩ := reports
  rw [text.returnCode_eq, Except.ok.injEq, ← UInt8.toNat_inj, Hex.toNat_leadingByte (by simp),
    value]
  simp [Hex.leadingDigits, isFirst, isSecond, Hex.positional]

end Reply

end UpsTelemetry
