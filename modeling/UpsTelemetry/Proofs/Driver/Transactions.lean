import UpsTelemetry.Proofs.Driver.PollCycle
import UpsTelemetry.Proofs.Sink.Transactions

/-!
# What a host has been told in the end

After any run a host that was told of it shows no half of a report. No replacement is open, the
alarms are those of the last poll step that read the warnings, and the data counts as old if the
last poll step failed.

* `MostRecent`: a value is the one that the last operation to write it wrote. `mostRecent_run`
  brings it from what each operation does to what a run does, by induction from its end.
* `Session.ReadsWarnings`, `Session.Marks`: the operations that write the alarms and the mark.
* `Session.transactions_are_whole`: the main statement.
-/

namespace UpsTelemetry

variable {τ ε σ α : Type} {size : Nat} [Link τ ε]

open TelemetrySink (emit)
open SinkEvent (replaceStatus replaceAlarms)

/-! ## The last one to write -/

section recent

variable [TelemetrySink σ] (writes : Session τ σ size → Operation → α → Prop)

/-- A value is the one that the last operation to write one wrote in a run, or the initial one if
none did. -/
inductive MostRecent (start : Session τ σ size) (initial : α) : List Operation → α → Prop
  /-- Before the first operation it is the initial one. -/
  | initial : MostRecent start initial [] initial
  /-- An operation that writes a value makes it this one. -/
  | written {before : List Operation} {operation : Operation} {value : α}
      (here : writes (Session.run before start).2 operation value) :
      MostRecent start initial (before ++ [operation]) value
  /-- An operation that writes none keeps it. -/
  | kept {before : List Operation} {operation : Operation} {value : α}
      (recent : MostRecent start initial before value)
      (unwritten : ∀ other, ¬ writes (Session.run before start).2 operation other) :
      MostRecent start initial (before ++ [operation]) value

/-- What a host shows is what was written last, if every operation lets it show what it writes, and
keeps it if it writes nothing. -/
theorem mostRecent_run (shown : σ → α)
    (step : ∀ session operation,
      writes session operation (shown (session.perform operation).2.sink) ∨
        (∀ other, ¬ writes session operation other) ∧
          shown (session.perform operation).2.sink = shown session.sink)
    (operations : List Operation) (start : Session τ σ size) :
    MostRecent writes start (shown start.sink) operations
      (shown (Session.run operations start).2.sink) := by
  induction operations using List.reverseRecOn with
  | nil => exact .initial
  | append_singleton before operation ih =>
    have last : (Session.run (before ++ [operation]) start).2 =
        ((Session.run before start).2.perform operation).2 := by
      rw [Session.run_append, Session.run_cons]
      rfl
    rw [last]
    rcases step (Session.run before start).2 operation with here | ⟨unwritten, same⟩
    · exact .written here
    · exact same ▸ .kept ih unwritten

end recent

namespace Session

/-! ## One operation -/

/-- An operation is a poll step that succeeds in reading the warnings, and these are active. -/
def ReadsWarnings [TelemetrySink σ] (session : Session τ σ size) (operation : Operation)
    (active : List String) : Prop :=
  operation = .poll ∧ session.driver.state = .warning ∧
    ∃ reply, (Line.fresh session.driver.link size).Accepts session.driver.config
        session.driver.state.command [] session.driver.state.minimumInfo reply ∧
      Warnings.ofReply reply = .ok active

/-- An operation is a poll step, after which the data is old if it fails and fresh if it reads. -/
inductive Marks [TelemetrySink σ] (session : Session τ σ size) : Operation → Option Bool → Prop
  | fresh {report : Report}
      (reads : session.driver.Reads (TelemetrySink.hasStatus session.sink) report) :
      Marks session .poll (some false)
  | old (unread : ∀ report,
      ¬ session.driver.Reads (TelemetrySink.hasStatus session.sink) report) :
      Marks session .poll (some true)

/-- Of every operation the host is told in whole replacements. -/
theorem whole_perform [TelemetrySink σ] (session : Session τ σ size) (operation : Operation) :
    Whole (session.perform operation).1.events := by
  have told := session.told_perform operation
  generalize (session.perform operation).1.events = events at told ⊢
  cases told with
  | reported accepts made =>
    exact (Whole.of_reportEvents (Report.events_ofReply made)).append (.other rfl .nil)
  | stalled unread => exact .other rfl .nil
  | identified => exact .of_publications Driver.isPublication_identityEvents
  | nothing other => exact .nil

variable (session : Session τ Recorder size) (operation : Operation)

/-- An operation shows the alarms that it reads, and keeps them if it reads none. -/
theorem alarms_perform :
    session.ReadsWarnings operation (session.perform operation).2.sink.alarms ∨
      (∀ other, ¬ session.ReadsWarnings operation other) ∧
        (session.perform operation).2.sink.alarms = session.sink.alarms := by
  have told := session.told_perform operation
  rw [perform_sink]
  generalize (session.perform operation).1.events = events at told ⊢
  cases told with
  | @reported reply report accepts made =>
    have shape := Report.events_ofReply made
    generalize report.events = events at shape ⊢
    rw [TelemetrySink.emit_append]
    cases shape with
    | alarms warning read =>
      rw [Recorder.emit_replaceAlarms]
      exact .inl ⟨rfl, warning, reply, accepts, read⟩
    | status other only =>
      obtain ⟨values, published⟩ := Recorder.emit_publications only _
      rw [TelemetrySink.emit_append, Recorder.emit_replaceStatus, published]
      exact .inr ⟨fun _ reads => other reads.2.1, rfl⟩
    | published other only =>
      obtain ⟨values, published⟩ := Recorder.emit_publications only session.sink
      rw [published]
      exact .inr ⟨fun _ reads => other reads.2.1, rfl⟩
  | stalled unread =>
    refine .inr ⟨?_, rfl⟩
    rintro active ⟨-, warning, reply, accepts, read⟩
    refine unread (Warnings.report active) ⟨reply, accepts, ?_⟩
    rw [warning]
    exact map_eq_ok_iff.2 ⟨active, read, rfl⟩
  | identified =>
    obtain ⟨values, published⟩ :=
      Recorder.emit_publications Driver.isPublication_identityEvents session.sink
    rw [published]
    exact .inr ⟨fun _ reads => Operation.noConfusion reads.1, rfl⟩
  | nothing other => exact .inr ⟨fun _ reads => other reads.1, rfl⟩

/-- A poll step marks the data, as old if it fails, and nothing else does. -/
theorem stale_perform :
    session.Marks operation (session.perform operation).2.sink.stale ∨
      (∀ other, ¬ session.Marks operation other) ∧
        (session.perform operation).2.sink.stale = session.sink.stale := by
  have told := session.told_perform operation
  rw [perform_sink]
  generalize (session.perform operation).1.events = events at told ⊢
  cases told with
  | @reported reply report accepts made =>
    rw [TelemetrySink.emit_append]
    exact .inl (.fresh ⟨reply, accepts, made⟩)
  | stalled unread => exact .inl (.old unread)
  | identified =>
    obtain ⟨values, published⟩ :=
      Recorder.emit_publications Driver.isPublication_identityEvents session.sink
    rw [published]
    exact .inr ⟨nofun, rfl⟩
  | nothing other =>
    refine .inr ⟨fun stale marks => ?_, rfl⟩
    cases marks with
    | fresh => exact other rfl
    | old => exact other rfl

/-! ## Runs -/

/-- The events of every step of a run are whole. -/
theorem whole_run [TelemetrySink σ] (operations : List Operation) (session : Session τ σ size) :
    ∀ step ∈ (run operations session).1, Whole step.events := by
  induction operations generalizing session with
  | nil => nofun
  | cons operation rest ih =>
    rw [run_cons]
    exact List.forall_mem_cons.2 ⟨session.whole_perform operation, ih _⟩

/-- A run leaves nothing open in a host that had nothing open before. -/
theorem settled_run (operations : List Operation) {session : Session τ Recorder size}
    (settled : session.sink.Settled) : (run operations session).2.sink.Settled := by
  induction operations generalizing session with
  | nil => exact settled
  | cons operation rest ih =>
    exact ih (Recorder.settled_emit (session.whole_perform operation) settled)

/-- The host has been told the events of all steps, in order. -/
theorem sink_run [TelemetrySink σ] (operations : List Operation) (session : Session τ σ size) :
    (run operations session).2.sink =
      emit ((run operations session).1.flatMap Step.events) session.sink := by
  induction operations generalizing session with
  | nil => rfl
  | cons operation rest ih =>
    rw [run_cons, List.flatMap_cons, TelemetrySink.emit_append, ← perform_sink]
    exact ih _

/-- **Nobody is told half of a report.** Whatever is done with a driver, and whatever its link does,
a host that has been told of it all shows no open replacement after any of the operations: every
replacement was opened, filled and committed with nothing in between. Its alarms are those of the
last poll step that succeeded in reading the warnings, and none if there was none. Its data counts
as old if the last poll step failed, as fresh if it succeeded, and as neither before the first. -/
theorem transactions_are_whole (driver : Driver τ size) (operations : List Operation) :
    let start : Session τ Recorder size := ⟨driver, .empty⟩
    let steps := (run operations start).1
    let sink := (run operations start).2.sink
    (∀ step ∈ steps, Whole step.events) ∧
      sink = emit (steps.flatMap Step.events) .empty ∧
      sink.pendingStatus = none ∧ sink.pendingAlarms = none ∧
      MostRecent ReadsWarnings start [] operations sink.alarms ∧
      MostRecent Marks start none operations sink.stale := by
  intro start steps sink
  have settled : sink.Settled := settled_run operations ⟨rfl, rfl⟩
  exact ⟨whole_run operations start, sink_run operations start, settled.status_eq,
    settled.alarms_eq, mostRecent_run ReadsWarnings Recorder.alarms alarms_perform operations start,
    mostRecent_run Marks Recorder.stale stale_perform operations start⟩

end Session

end UpsTelemetry
