/-!
# Byte sequences

Everything that crosses the serial line is a finite sequence of bytes. This file fixes the
representation, a list, and the one way in which the rest of the library cuts pieces out of a
sequence: `Bytes.slice?` answers only when the whole piece is there.

* `slice?_eq_some_iff`: the pieces it yields are exactly the windows inside the sequence.
-/

namespace UpsTelemetry

/-- A finite sequence of bytes. -/
abbrev Bytes := List UInt8

namespace Bytes

/-- The `width` bytes from position `start` on, if the sequence reaches that far. -/
def slice? (bytes : Bytes) (start width : Nat) : Option Bytes :=
  if start + width ≤ bytes.length then some ((bytes.drop start).take width) else none

/-- A piece is there exactly if the sequence reaches to its end. -/
theorem slice?_eq_some_iff {bytes piece : Bytes} {start width : Nat} :
    slice? bytes start width = some piece ↔
      start + width ≤ bytes.length ∧ (bytes.drop start).take width = piece := by
  simp [slice?]

/-- It is not there exactly if the sequence ends before. -/
theorem slice?_eq_none_iff {bytes : Bytes} {start width : Nat} :
    slice? bytes start width = none ↔ bytes.length < start + width := by
  simp [slice?]

/-- A piece is found behind what stands in front of it. -/
theorem slice?_append (front piece behind : Bytes) :
    slice? (front ++ (piece ++ behind)) front.length piece.length = some piece := by
  rw [slice?_eq_some_iff, List.drop_left, List.take_left]
  refine ⟨?_, rfl⟩
  simp only [List.length_append]
  omega

/-- A piece has the width that was asked for. -/
theorem length_of_slice? {bytes piece : Bytes} {start width : Nat}
    (h : slice? bytes start width = some piece) : piece.length = width := by
  obtain ⟨fits, rfl⟩ := slice?_eq_some_iff.1 h
  simp only [List.length_take, List.length_drop]; omega

end Bytes

end UpsTelemetry
