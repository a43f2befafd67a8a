import UpsTelemetry.Link.Basic

/-!
# Links that keep a record

A traced link behaves as the link inside it and writes down every call, with what it was given and
how it came out. The record grows at its end.
-/

namespace UpsTelemetry

/-- One call of a link. -/
inductive LinkCall (ε : Type)
  /-- Input was thrown away. -/
  | flushInput (outcome : Except ε Unit)
  /-- A frame was sent. -/
  | send (frame : Bytes) (outcome : Except ε Nat)
  /-- A reply was received into `room` bytes. The bytes received are those of the buffer that the
  reported count covers, and none after a fault. -/
  | receive (room timeoutMillis : Nat) (outcome : Except ε Nat) (bytes : Bytes)
deriving Repr

/-- A link and the record of its calls. -/
structure TracedLink (τ ε : Type) where
  /-- The link that does the work. -/
  link : τ
  /-- The calls made so far, the first one first. -/
  calls : List (LinkCall ε) := []

instance {τ ε : Type} [Link τ ε] : Link (TracedLink τ ε) ε where
  flushInput traced :=
    let (outcome, link) := Link.flushInput traced.link
    (outcome, ⟨link, traced.calls ++ [.flushInput outcome]⟩)
  send frame traced :=
    let (outcome, link) := Link.send frame traced.link
    (outcome, ⟨link, traced.calls ++ [.send frame outcome]⟩)
  receive {size} buffer timeoutMillis traced :=
    let (outcome, buffer', link) := Link.receive buffer timeoutMillis traced.link
    let bytes := match outcome with
      | .ok count => buffer'.received count
      | .error _ => []
    (outcome, buffer', ⟨link, traced.calls ++ [.receive size timeoutMillis outcome bytes]⟩)

end UpsTelemetry
