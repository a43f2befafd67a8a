import UpsTelemetry.Link.Basic

/-!
# A link that follows a script

A script of exchanges says how the three calls of each come out. Throwing away input begins the next
exchange of the script; once there are none left, every exchange is the plain one, in which a frame
is sent whole and nothing is received.

The link claims to have received as many bytes as the script has for it, even if they did not fit
the buffer.
-/

namespace UpsTelemetry

/-- How the calls of one exchange come out. -/
structure ExchangeScript where
  /-- How throwing away input fails, if it does. -/
  flush : Option FaultKind := none
  /-- What sending reports; if nothing, the whole frame is sent. -/
  send : Option (Except FaultKind Nat) := none
  /-- What is received, or how that fails. -/
  receive : Except FaultKind Bytes := .ok []

/-- A link and the rest of its script. -/
structure ScriptedLink where
  /-- The exchange under way. -/
  current : ExchangeScript := {}
  /-- The exchanges to come. -/
  exchanges : List ExchangeScript := []

namespace ScriptedLink

/-- The link at the beginning of its next exchange. -/
def next (link : ScriptedLink) : ScriptedLink :=
  match link.exchanges with
  | [] => { link with current := {} }
  | current :: exchanges => ⟨current, exchanges⟩

instance : Link ScriptedLink FaultKind where
  flushInput link :=
    match link.next.current.flush with
    | some kind => (.error kind, link.next)
    | none => (.ok (), link.next)
  send frame link := (link.current.send.getD (.ok frame.length), link)
  receive buffer _ link :=
    match link.current.receive with
    | .error kind => (.error kind, buffer, link)
    | .ok bytes => (.ok bytes.length, buffer.overwrite 0 bytes, link)

end ScriptedLink

end UpsTelemetry
