import UpsTelemetry.Sink.Recorder

/-!
# What events do to a recorded status

The status of a recorder changes in one way only, by a replacement that is opened, filled and
committed. A whole replacement leaves exactly its tokens, whatever was committed or under way before
(`emit_replaceStatus`), and events that are not about the status leave it as it is
(`statusUntouched_emit`).
-/

namespace UpsTelemetry

/-- Whether an event is about the status. -/
def SinkEvent.isStatus : SinkEvent → Bool
  | beginStatus => true
  | setStatus _ => true
  | commitStatus => true
  | _ => false

namespace Recorder

open SinkEvent (replaceStatus)
open TelemetrySink (emit)

/-- A recorder has the tokens of the status committed last. -/
theorem hasStatus_eq_true_iff {recorder : Recorder} {token : String} :
    TelemetrySink.hasStatus recorder token = true ↔ token ∈ recorder.status := by
  show recorder.status.contains token = true ↔ _
  rw [List.contains_iff_mem]

/-! ## Replacements -/

/-- Tokens are added to a replacement that is open, in order. -/
theorem emit_setStatus (tokens : List StatusToken) (recorder : Recorder) (front : List String) :
    emit (tokens.map fun token => SinkEvent.setStatus token.name)
        { recorder with pendingStatus := some front } =
      { recorder with pendingStatus := some (front ++ tokens.map StatusToken.name) } := by
  induction tokens generalizing front with
  | nil => simp
  | cons token rest ih =>
    have first : accept (.setStatus token.name) { recorder with pendingStatus := some front } =
        { recorder with pendingStatus := some (front ++ [token.name]) } := rfl
    rw [List.map_cons, TelemetrySink.emit_cons]
    show emit _ (accept _ _) = _
    rw [first, ih, List.map_cons, List.append_assoc, List.singleton_append]

/-- A whole replacement leaves its tokens and nothing else. -/
theorem emit_replaceStatus (tokens : List StatusToken) (recorder : Recorder) :
    emit (replaceStatus tokens) recorder =
      { recorder with
        status := tokens.map StatusToken.name
        pendingStatus := none
        statusCommits := recorder.statusCommits + 1 } := by
  have opened : accept .beginStatus recorder = { recorder with pendingStatus := some [] } := rfl
  unfold replaceStatus
  rw [List.cons_append, TelemetrySink.emit_cons]
  show emit _ (accept _ _) = _
  rw [opened, TelemetrySink.emit_append, emit_setStatus, List.nil_append]
  rfl

/-! ## Other events -/

/-- The status of a recorder is as it was, and so is what is under way. -/
structure StatusUntouched (before after : Recorder) : Prop where
  /-- The committed status is kept. -/
  status_eq : after.status = before.status
  /-- The replacement under way is kept. -/
  pending_eq : after.pendingStatus = before.pendingStatus
  /-- Nothing was committed. -/
  commits_eq : after.statusCommits = before.statusCommits

/-- An event that is not about the status leaves it alone. -/
theorem statusUntouched_accept {event : SinkEvent} (other : event.isStatus = false)
    (recorder : Recorder) : StatusUntouched recorder (accept event recorder) := by
  cases event with
  | beginStatus => cases other
  | setStatus token => cases other
  | commitStatus => cases other
  | _ => exact ⟨rfl, rfl, rfl⟩

/-- A status that is left alone twice is left alone. -/
theorem StatusUntouched.trans {first second third : Recorder} (here : StatusUntouched first second)
    (later : StatusUntouched second third) : StatusUntouched first third :=
  ⟨later.status_eq.trans here.status_eq, later.pending_eq.trans here.pending_eq,
    later.commits_eq.trans here.commits_eq⟩

/-- Events that are not about the status leave it as it is. -/
theorem statusUntouched_emit {events : List SinkEvent}
    (others : ∀ event ∈ events, event.isStatus = false) (recorder : Recorder) :
    StatusUntouched recorder (emit events recorder) := by
  induction events generalizing recorder with
  | nil => exact ⟨rfl, rfl, rfl⟩
  | cons event rest ih =>
    obtain ⟨here, later⟩ := List.forall_mem_cons.1 others
    exact (statusUntouched_accept here recorder).trans (ih later _)

end Recorder

end UpsTelemetry
