import UpsTelemetry.Proofs.Sink.Recorder
import UpsTelemetry.Proofs.Telemetry.Report

/-!
# Whole replacements

A host that keeps to itself what is under way, and shows only what was committed, relies on every
replacement being opened, filled and committed without anything in between.

* `Whole`: the grammar of such events, written out event by event. `Whole.replaceStatus` and
  `Whole.replaceAlarms`: the sequences that the driver makes use of follow it.
* `Recorder.settled_emit`: they leave no replacement open.
* `Recorder.emit_replaceAlarms`, `Recorder.emit_replaceStatus`: what they commit is what they were
  filled with.
-/

namespace UpsTelemetry

open SinkEvent (replaceStatus replaceAlarms)
open TelemetrySink (emit)

/-- Whether an event is part of a replacement. -/
def SinkEvent.isReplacement : SinkEvent → Bool
  | set _ _ => false
  | markStale => false
  | markFresh => false
  | _ => true

/-- Every replacement is whole: once opened it is filled, then committed, and nothing else comes in
between. -/
inductive Whole : List SinkEvent → Prop
  | nil : Whole []
  /-- An event outside of replacements. -/
  | other {event : SinkEvent} {rest : List SinkEvent} (outside : event.isReplacement = false)
      (goesOn : Whole rest) : Whole (event :: rest)
  /-- A replacement of the status: it is opened, its tokens are set, and it is committed. -/
  | status {tokens : List StatusToken} {rest : List SinkEvent} (goesOn : Whole rest) :
      Whole (.beginStatus :: tokens.map (fun token => .setStatus token.name) ++
        .commitStatus :: rest)
  /-- A replacement of the alarms: it is opened, its alarms are raised, and it is committed. -/
  | alarms {names : List String} {rest : List SinkEvent} (goesOn : Whole rest) :
      Whole (.beginAlarms :: names.map .raiseAlarm ++ .commitAlarms :: rest)

namespace SinkEvent

/-- What comes behind a replacement of the status comes behind its commit. -/
theorem replaceStatus_append (tokens : List StatusToken) (rest : List SinkEvent) :
    replaceStatus tokens ++ rest =
      beginStatus :: tokens.map (fun token => setStatus token.name) ++ commitStatus :: rest := by
  rw [replaceStatus, List.append_assoc, List.singleton_append]

/-- What comes behind a replacement of the alarms comes behind its commit. -/
theorem replaceAlarms_append (names : List String) (rest : List SinkEvent) :
    replaceAlarms names ++ rest =
      beginAlarms :: names.map raiseAlarm ++ commitAlarms :: rest := by
  rw [replaceAlarms, List.append_assoc, List.singleton_append]

end SinkEvent

namespace Whole

/-- Whole replacements behind each other are whole. -/
theorem append {first second : List SinkEvent} (here : Whole first) (later : Whole second) :
    Whole (first ++ second) := by
  induction here with
  | nil => exact later
  | other outside _ ih => exact .other outside ih
  | status _ ih => exact List.append_assoc _ _ _ ▸ .status ih
  | alarms _ ih => exact List.append_assoc _ _ _ ▸ .alarms ih

/-- The driver's replacement of the status is whole. -/
theorem replaceStatus (tokens : List StatusToken) : Whole (SinkEvent.replaceStatus tokens) :=
  .status .nil

/-- The driver's replacement of the alarms is whole. -/
theorem replaceAlarms (names : List String) : Whole (SinkEvent.replaceAlarms names) :=
  .alarms .nil

/-- Events outside of replacements are whole. -/
theorem of_others {events : List SinkEvent}
    (others : ∀ event ∈ events, event.isReplacement = false) : Whole events := by
  induction events with
  | nil => exact .nil
  | cons event rest ih =>
    obtain ⟨here, later⟩ := List.forall_mem_cons.1 others
    exact .other here (ih later)

/-- Publications are whole. -/
theorem of_publications {events : List SinkEvent}
    (only : ∀ event ∈ events, event.isPublication = true) : Whole events := by
  refine of_others fun event mem => ?_
  have publishes := only event mem
  cases event with
  | set name value => rfl
  | _ => cases publishes

/-- In the report of a reply every replacement is whole. -/
theorem of_reportEvents {state : PollState} {reply : Reply} {events : List SinkEvent}
    (report : ReportEvents state reply events) : Whole events := by
  cases report with
  | alarms => exact replaceAlarms _
  | status other only => exact (replaceStatus _).append (.of_publications only)
  | published other only => exact .of_publications only

end Whole

/-! ## What a recorder makes of them -/

namespace Recorder

/-- No replacement is open. -/
structure Settled (recorder : Recorder) : Prop where
  /-- None of the status. -/
  status_eq : recorder.pendingStatus = none
  /-- None of the alarms. -/
  alarms_eq : recorder.pendingAlarms = none

/-- Alarms are added to a replacement that is open, in order. -/
theorem emit_raiseAlarm (names : List String) (recorder : Recorder) (front : List String) :
    emit (names.map SinkEvent.raiseAlarm) { recorder with pendingAlarms := some front } =
      { recorder with pendingAlarms := some (front ++ names) } := by
  induction names generalizing front with
  | nil => simp
  | cons name rest ih =>
    have first : accept (.raiseAlarm name) { recorder with pendingAlarms := some front } =
        { recorder with pendingAlarms := some (front ++ [name]) } := rfl
    rw [List.map_cons, TelemetrySink.emit_cons]
    show emit _ (accept _ _) = _
    rw [first, ih, List.append_assoc, List.singleton_append]

/-- A whole replacement leaves its alarms and nothing else. -/
theorem emit_replaceAlarms (names : List String) (recorder : Recorder) :
    emit (replaceAlarms names) recorder =
      { recorder with
        alarms := names
        pendingAlarms := none
        alarmCommits := recorder.alarmCommits + 1 } := by
  have opened : accept .beginAlarms recorder = { recorder with pendingAlarms := some [] } := rfl
  unfold replaceAlarms
  rw [List.cons_append, TelemetrySink.emit_cons]
  show emit _ (accept _ _) = _
  rw [opened, TelemetrySink.emit_append, emit_raiseAlarm, List.nil_append]
  rfl

/-- Publications change variables and nothing else. -/
theorem emit_publications {events : List SinkEvent}
    (only : ∀ event ∈ events, event.isPublication = true) (recorder : Recorder) :
    ∃ values, emit events recorder = { recorder with values } := by
  induction events generalizing recorder with
  | nil => exact ⟨recorder.values, rfl⟩
  | cons event rest ih =>
    obtain ⟨here, later⟩ := List.forall_mem_cons.1 only
    cases event with
    | set name value => exact ih later _
    | _ => cases here

/-- Whole replacements leave none open. -/
theorem settled_emit {events : List SinkEvent} (whole : Whole events) {recorder : Recorder}
    (settled : recorder.Settled) : (emit events recorder).Settled := by
  induction whole generalizing recorder with
  | nil => exact settled
  | @other event rest outside _ ih =>
    apply ih
    cases event with
    | set name value => exact ⟨settled.status_eq, settled.alarms_eq⟩
    | markStale => exact ⟨settled.status_eq, settled.alarms_eq⟩
    | markFresh => exact ⟨settled.status_eq, settled.alarms_eq⟩
    | _ => cases outside
  | status _ ih =>
    rw [← SinkEvent.replaceStatus_append, TelemetrySink.emit_append, emit_replaceStatus]
    exact ih ⟨rfl, settled.alarms_eq⟩
  | alarms _ ih =>
    rw [← SinkEvent.replaceAlarms_append, TelemetrySink.emit_append, emit_replaceAlarms]
    exact ih ⟨settled.status_eq, rfl⟩

end Recorder

end UpsTelemetry
