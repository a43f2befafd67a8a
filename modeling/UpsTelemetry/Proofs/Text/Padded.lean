import Mathlib.Data.List.Basic
import Mathlib.Data.List.TakeWhile
import UpsTelemetry.Proofs.Text.Number
import UpsTelemetry.Text.Padded

/-!
# The text in a padded field

A reader goes through a field pair by pair and stops for one of three reasons: a pair ends the text,
the room is full, or the field is over. The rule behind it has no loop. Each pair stands for a byte
(`pairValue`), those before the first that ends the text are its content, each of them is shown
(`shown`), and as many as there is room for are kept (`bytes_text`).

* `content`: the bytes of the text in a field, as if there were room for all of them.
* `content_padded`: nothing behind a pair that ends the text belongs to it.
* `content_written`: plain bytes are read back from their own digits, whether padding stands behind
  them or the field ends there.
* `padded_text`: the rule, and what follows from it for the texts that are read.
-/

namespace UpsTelemetry.Padded

/-! ## The rule -/

/-- A field cut into pairs of characters. A last character without a partner stands alone. -/
def pairs : Bytes → List Bytes
  | [] => []
  | [single] => [[single]]
  | high :: low :: rest => [high, low] :: pairs rest

/-- The byte that a pair stands for: the value of the digits it begins with, and zero if it begins
with none. -/
def pairValue (pair : Bytes) : UInt8 :=
  UInt8.ofNat (Hex.positional (Hex.leadingDigits pair))

/-- A byte that ends the text. -/
def endsText (byte : UInt8) : Bool :=
  byte == padding || byte == 0x00

/-- A byte as it is shown: itself if it is ASCII, else a question mark. -/
def shown (byte : UInt8) : UInt8 :=
  if byte < 0x80 then byte else 0x3F

/-- The bytes of the text in a field, as if there were room for all of them. -/
def content (field : Bytes) : Bytes :=
  (((pairs field).map pairValue).takeWhile (! endsText ·)).map shown

/-- The bytes of a text. -/
def bytesOf (text : String) : Bytes :=
  text.toUTF8.data.toList

/-- A byte that can be part of a text: ASCII, and not one that ends it. -/
def Plain (byte : UInt8) : Prop :=
  byte < 0x80 ∧ byte ≠ padding ∧ byte ≠ 0x00

instance (byte : UInt8) : Decidable (Plain byte) :=
  inferInstanceAs (Decidable (_ ∧ _))

/-! ## Pairs -/

/-- A field has half as many pairs as characters, rounded up. -/
theorem length_pairs (field : Bytes) : (pairs field).length = (field.length + 1) / 2 := by
  fun_induction pairs field with
  | case1 => rfl
  | case2 single => simp
  | case3 high low rest ih =>
    simp only [List.length_cons, ih]
    omega

/-- A field can be cut in front of any pair. -/
theorem pairs_append {front : Bytes} (even : 2 ∣ front.length) (rest : Bytes) :
    pairs (front ++ rest) = pairs front ++ pairs rest := by
  fun_induction pairs front with
  | case1 => rfl
  | case2 single => simp at even
  | case3 high low front ih =>
    have even' : 2 ∣ front.length := by
      simp only [List.length_cons] at even
      omega
    simp only [List.cons_append, pairs, ih even']

/-- Two characters are one pair. -/
theorem pairs_pair {pair : Bytes} (two : pair.length = 2) : pairs pair = [pair] := by
  obtain ⟨high, low, rfl⟩ := List.length_eq_two.1 two
  rfl

/-- A pair is read as the byte it stands for. -/
theorem leadingByte_eq_pairValue {pair : Bytes} (fits : pair.length ≤ 2) :
    Hex.leadingByte pair = pairValue pair := by
  rw [pairValue, ← Hex.toNat_leadingByte fits, UInt8.ofNat_toNat]

/-- The pair that is written for a byte is worth the byte. -/
theorem pairValue_ofByte (byte : UInt8) : pairValue (Hex.ofByte byte) = byte := by
  rw [← leadingByte_eq_pairValue (by simp), Hex.leadingByte_ofByte]

/-- The digits of some bytes are pairs, which stand for those bytes. -/
theorem map_pairValue_written (bytes rest : Bytes) :
    (pairs (bytes.flatMap Hex.ofByte ++ rest)).map pairValue =
      bytes ++ (pairs rest).map pairValue := by
  induction bytes with
  | nil => rfl
  | cons byte bytes ih =>
    have first : pairs (Hex.ofByte byte ++ (bytes.flatMap Hex.ofByte ++ rest)) =
        Hex.ofByte byte :: pairs (bytes.flatMap Hex.ofByte ++ rest) := rfl
    rw [List.flatMap_cons, List.append_assoc, first, List.map_cons, pairValue_ofByte, ih,
      List.cons_append]

/-! ## Content -/

/-- Nothing behind a pair that ends the text belongs to it. -/
theorem content_padded {front pair : Bytes} (even : 2 ∣ front.length) (two : pair.length = 2)
    (ends : endsText (pairValue pair) = true) (behind : Bytes) :
    content (front ++ pair ++ behind) = content front := by
  have even' : 2 ∣ (front ++ pair).length := by
    rw [List.length_append, two]
    omega
  have values : (pairs (front ++ pair ++ behind)).map pairValue =
      (pairs front).map pairValue ++ pairValue pair :: (pairs behind).map pairValue := by
    rw [pairs_append even', pairs_append even, pairs_pair two]
    simp
  rw [content, values, Hex.takeWhile_stopped _ (by simp [ends])]
  rfl

/-- There is nothing in the content that could end it. -/
theorem plain_content (field : Bytes) : ∀ byte ∈ content field, Plain byte := by
  intro byte mem
  obtain ⟨value, taken, rfl⟩ := List.mem_map.1 mem
  have goesOn : value ≠ padding ∧ value ≠ 0x00 := by
    simpa [endsText] using List.mem_takeWhile_imp taken
  unfold shown
  split
  · next ascii => exact ⟨ascii, goesOn⟩
  · decide

/-- The content has no more bytes than the field has pairs. -/
theorem length_content_le (field : Bytes) :
    (content field).length ≤ (field.length + 1) / 2 := by
  rw [content, List.length_map, ← length_pairs, ← List.length_map pairValue]
  exact (List.takeWhile_prefix _).length_le

/-- Plain bytes are shown as they are, and none of them ends the text. -/
theorem map_shown_takeWhile {bytes : Bytes} (plain : ∀ byte ∈ bytes, Plain byte) :
    (bytes.takeWhile (! endsText ·)).map shown = bytes := by
  have whole : bytes.takeWhile (! endsText ·) = bytes := by
    rw [List.takeWhile_eq_self_iff]
    intro byte mem
    obtain ⟨-, notSpace, notNul⟩ := plain byte mem
    simp [endsText, notSpace, notNul]
  rw [whole]
  calc bytes.map shown
    _ = bytes.map id := List.map_congr_left fun byte mem => if_pos (plain byte mem).1
    _ = bytes := List.map_id bytes

/-- Plain bytes are read back from their digits, if the field ends behind them. -/
theorem content_written {bytes : Bytes} (plain : ∀ byte ∈ bytes, Plain byte) :
    content (bytes.flatMap Hex.ofByte) = bytes := by
  have values := map_pairValue_written bytes []
  rw [List.append_nil, pairs, List.map_nil, List.append_nil] at values
  rw [content, values, map_shown_takeWhile plain]

/-! ## Reading -/

/-- A byte is shown as a character, unless it ends the text. -/
theorem char?_eq (byte : UInt8) :
    char? byte = if endsText byte then none else some (Char.ofNat (shown byte).toNat) := by
  have same : endsText byte = true ↔ byte = padding ∨ byte = 0x00 := by simp [endsText]
  unfold char? shown
  simp only [same]
  by_cases ends : byte = padding ∨ byte = 0x00
  · rw [if_pos ends, if_pos ends]
  · rw [if_neg ends, if_neg ends]
    split <;> rfl

/-- The reader keeps as much of the content as there is room for. -/
theorem chars_eq (room : Nat) (field : Bytes) :
    chars room field = ((content field).take room).map fun byte => Char.ofNat byte.toNat := by
  fun_induction chars room field with
  | case1 field => rfl
  | case2 room => rfl
  | case3 room single =>
    rw [leadingByte_eq_pairValue (by simp), char?_eq, content]
    by_cases ends : endsText (pairValue [single]) = true <;> simp [pairs, ends]
  | case4 room high low rest char read ih =>
    rw [leadingByte_eq_pairValue (by simp), char?_eq] at read
    split at read
    · cases read
    · next goesOn =>
      obtain rfl := Option.some.inj read
      simp [ih, content, pairs, goesOn]
  | case5 room high low rest ended =>
    rw [leadingByte_eq_pairValue (by simp), char?_eq] at ended
    split at ended
    · next ends => simp [content, pairs, ends]
    · cases ended

/-! ## The bytes of a text -/

/-- Texts have different bytes. -/
theorem bytesOf_injective {first second : String} (same : bytesOf first = bytesOf second) :
    first = second :=
  String.toByteArray_inj.1 (ByteArray.ext (Array.toList_inj.1 same))

/-- An ASCII character is one byte, its own code. -/
theorem utf8EncodeChar_ascii {byte : UInt8} (ascii : byte < 0x80) :
    String.utf8EncodeChar (Char.ofNat byte.toNat) = [byte] := by
  revert ascii
  refine Hex.forall_of_table byte ?_
  decide +kernel

/-- ASCII bytes are the bytes of the text that they make. -/
theorem bytesOf_ascii {bytes : Bytes} (ascii : ∀ byte ∈ bytes, byte < 0x80) :
    bytesOf (String.ofList (bytes.map fun byte => Char.ofNat byte.toNat)) = bytes := by
  rw [bytesOf, String.toUTF8, String.toByteArray_ofList, List.utf8Encode, List.data_toByteArray,
    List.toList_toArray, List.flatMap_map]
  calc bytes.flatMap (fun byte => String.utf8EncodeChar (Char.ofNat byte.toNat))
    _ = bytes.flatMap (fun byte => [byte]) :=
      List.flatMap_congr fun byte mem => utf8EncodeChar_ascii (ascii byte mem)
    _ = bytes := List.flatMap_singleton' bytes

/-- A text is as much of the content of its field as there is room for. -/
theorem bytes_text (room : Nat) (field : Bytes) :
    bytesOf (text room field) = (content field).take room := by
  rw [text, chars_eq]
  apply bytesOf_ascii
  intro byte mem
  exact (plain_content field byte (List.mem_of_mem_take mem)).1

/-! ## Texts -/

/-- **What is read of a padded field.** The text is the rule's: pairs to bytes, up to the first that
ends the text, shown as ASCII, as many as there is room for. So it is plain and no longer than the
room and the field allow. What stands behind a pair that ends it does not matter, and with less room
it is the beginning of the same text. A plain text that there is room for is read back from its
digits, at the end of a field and with padding and anything else behind it. -/
theorem padded_text (room : Nat) (field : Bytes) :
    bytesOf (text room field) =
        ((((pairs field).map pairValue).takeWhile (! endsText ·)).map shown).take room ∧
      (∀ byte ∈ bytesOf (text room field), Plain byte) ∧
      (bytesOf (text room field)).length ≤ min room ((field.length + 1) / 2) ∧
      (∀ front pair behind behind' : Bytes, 2 ∣ front.length → pair.length = 2 →
        endsText (pairValue pair) = true → field = front ++ pair ++ behind →
          text room (front ++ pair ++ behind') = text room field) ∧
      (∀ more, room ≤ more →
        (text room field).toList = (text more field).toList.take room) ∧
      ∀ written : String, (∀ byte ∈ bytesOf written, Plain byte) →
        (bytesOf written).length ≤ room →
          text room ((bytesOf written).flatMap Hex.ofByte) = written ∧
            ∀ behind, text room
              ((bytesOf written).flatMap Hex.ofByte ++ Hex.ofByte padding ++ behind) = written := by
  refine ⟨bytes_text room field, ?_, ?_, ?_, ?_, ?_⟩
  · intro byte mem
    rw [bytes_text] at mem
    exact plain_content field byte (List.mem_of_mem_take mem)
  · have bound := length_content_le field
    rw [bytes_text, List.length_take]
    omega
  · rintro front pair behind behind' even two ends rfl
    apply bytesOf_injective
    rw [bytes_text, bytes_text, content_padded even two ends, content_padded even two ends]
  · intro more less
    rw [text, text, String.toList_ofList, String.toList_ofList, chars_eq, chars_eq, List.map_take,
      List.map_take, List.take_take, Nat.min_eq_left less]
  · intro written plain fits
    have whole := content_written plain
    have even : 2 ∣ ((bytesOf written).flatMap Hex.ofByte).length := by
      simp only [List.length_flatMap, Hex.length_ofByte, List.map_const', List.sum_replicate_nat]
      exact Nat.dvd_mul_left 2 _
    have ends : endsText (pairValue (Hex.ofByte padding)) = true := by
      rw [pairValue_ofByte]
      rfl
    refine ⟨bytesOf_injective ?_, fun behind => bytesOf_injective ?_⟩
    · rw [bytes_text, whole, List.take_of_length_le fits]
    · rw [bytes_text, content_padded even (Hex.length_ofByte padding) ends, whole,
        List.take_of_length_le fits]

/-- The name of a model in a field of twenty characters, with padding and line noise behind it. -/
theorem padded_text_of_model :
    (∀ byte ∈ bytesOf "GXE10K", Plain byte) ∧ (bytesOf "GXE10K").length ≤ 10 ∧
      text 10 ((bytesOf "GXE10K").flatMap Hex.ofByte ++ Hex.ofByte padding ++
        [0x5A, 0x39, 0xFF, 0x34, 0x37, 0x35]) = "GXE10K" := by
  have spelled : bytesOf "GXE10K" = [0x47, 0x58, 0x45, 0x31, 0x30, 0x4B] := rfl
  have plain : ∀ byte ∈ bytesOf "GXE10K", Plain byte := by
    rw [spelled]
    simp [Plain, padding]
  have fits : (bytesOf "GXE10K").length ≤ 10 := by decide
  obtain ⟨-, -, -, -, -, readsBack⟩ := padded_text 10 []
  exact ⟨plain, fits, (readsBack "GXE10K" plain fits).2 _⟩

end UpsTelemetry.Padded
