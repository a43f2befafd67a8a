import UpsTelemetry.Telemetry.Metric
import UpsTelemetry.Telemetry.Power

/-!
# Where telemetry goes

The host keeps its own picture of the UPS. The driver never looks into it, with one exception, and
changes it only by events. Alarms and status are replaced as a whole: an event opens a replacement,
further events fill it, and a last one commits it.

The exception is the committed status: the host can say whether a token is part of it.

* `TelemetrySink`: what a host provides.
* `TelemetrySink.emit`: a sequence of events, in order; `emit_append` splits it.
* `SinkEvent.publish`, `SinkEvent.replaceStatus`, `SinkEvent.replaceAlarms`: the sequences that the
  driver makes use of.
-/

namespace UpsTelemetry

/-- One change of the host's picture of the UPS. -/
inductive SinkEvent
  /-- Publish a value under a variable. -/
  | set (name value : String)
  /-- The last exchange failed; what was published before stands, but is old. -/
  | markStale
  /-- Fresh data was published. -/
  | markFresh
  /-- Open a replacement of the alarms. -/
  | beginAlarms
  /-- Add an alarm to the replacement. -/
  | raiseAlarm (name : String)
  /-- Let the replacement take the place of the alarms. -/
  | commitAlarms
  /-- Open a replacement of the status. -/
  | beginStatus
  /-- Add a token to the replacement. -/
  | setStatus (token : String)
  /-- Let the replacement take the place of the status. -/
  | commitStatus
deriving DecidableEq, Repr

namespace SinkEvent

/-- Publish a value under one of the driver's variables. -/
def publish (metric : Metric) (value : String) : SinkEvent :=
  set metric.name value

/-- Replace the status by the given tokens. -/
def replaceStatus (tokens : List StatusToken) : List SinkEvent :=
  beginStatus :: tokens.map (fun token => setStatus token.name) ++ [commitStatus]

/-- Replace the alarms by the given ones. -/
def replaceAlarms (names : List String) : List SinkEvent :=
  beginAlarms :: names.map raiseAlarm ++ [commitAlarms]

end SinkEvent

/-- A host that takes telemetry. -/
class TelemetrySink (σ : Type) where
  /-- The host after one event. -/
  accept : SinkEvent → σ → σ
  /-- Whether a token is part of the committed status. -/
  hasStatus : σ → String → Bool

namespace TelemetrySink

variable {σ : Type} [TelemetrySink σ]

/-- The host after a sequence of events. -/
def emit (events : List SinkEvent) (sink : σ) : σ :=
  events.foldl (fun sink event => accept event sink) sink

/-- A host that is told nothing stays as it is. -/
@[simp] theorem emit_nil (sink : σ) : emit [] sink = sink := rfl

/-- A host is told events in their order. -/
@[simp] theorem emit_cons (event : SinkEvent) (events : List SinkEvent) (sink : σ) :
    emit (event :: events) sink = emit events (accept event sink) := rfl

/-- It can be told them in pieces. -/
theorem emit_append (first second : List SinkEvent) (sink : σ) :
    emit (first ++ second) sink = emit second (emit first sink) := by
  simp [emit]

end TelemetrySink

end UpsTelemetry
