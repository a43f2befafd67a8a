import UpsTelemetry.Bytes

/-!
# Receive buffers

A receive buffer has a fixed size, and whoever receives into it may leave any bytes in it. What was
received is a prefix of it, however many bytes the receiver claims to have put there
(`length_received`).
-/

namespace UpsTelemetry

/-- A buffer of `size` bytes. -/
structure ReceiveBuffer (size : Nat) where
  /-- All bytes of the buffer, received or left over. -/
  contents : Bytes
  /-- The buffer is always full size. -/
  length_contents : contents.length = size
deriving DecidableEq, Repr

namespace ReceiveBuffer

variable {size : Nat}

/-- A buffer of zeros. -/
def zeros (size : Nat) : ReceiveBuffer size :=
  ⟨List.replicate size 0, by simp⟩

/-- The buffer with `chunk` written over it from position `start` on. What does not fit is
dropped. -/
def overwrite (buffer : ReceiveBuffer size) (start : Nat) (chunk : Bytes) : ReceiveBuffer size where
  contents :=
    (buffer.contents.take start ++ chunk ++ buffer.contents.drop (start + chunk.length)).take size
  length_contents := by
    have := buffer.length_contents
    simp only [List.length_take, List.length_append, List.length_drop]
    omega

/-- The bytes received, if the receiver says that it received `count`. -/
def received (buffer : ReceiveBuffer size) (count : Nat) : Bytes :=
  buffer.contents.take count

/-- A chunk that fits is what was received, if as many bytes are said to have been. -/
theorem received_overwrite_zero (buffer : ReceiveBuffer size) {chunk : Bytes}
    (fits : chunk.length ≤ size) :
    (buffer.overwrite 0 chunk).received chunk.length = chunk := by
  simp [received, overwrite, List.take_take, Nat.min_eq_left fits]

/-- No more can be taken out than the buffer holds. -/
theorem length_received (buffer : ReceiveBuffer size) (count : Nat) :
    (buffer.received count).length = min count size := by
  simp [received, buffer.length_contents]

end ReceiveBuffer

end UpsTelemetry
