import Mathlib.Logic.Basic
import UpsTelemetry.Proofs.Driver.Exchange
import UpsTelemetry.Proofs.Driver.Session
import UpsTelemetry.Proofs.Telemetry.Report

/-!
# A poll step reports everything or nothing

`Driver.Reads` says that the frame of the current state was answered by an accepted reply and that
every field of its record could be read. A poll step looks at nothing else: one that reads reports
and goes on (`Driver.poll_of_reads`), and any other marks the data as old and stays
(`Driver.poll_of_not_reads`). So nothing is published before the last reason to fail has been ruled
out, which `poll_is_all_or_nothing` says of a session.
-/

namespace UpsTelemetry

variable {τ ε σ : Type} {size : Nat} [Link τ ε] [TelemetrySink σ]

/-! ## The driver -/

namespace Driver

/-- The frame of the current state is answered by an accepted reply, which gives rise to the
report. -/
def Reads (driver : Driver τ size) (hasStatus : String → Bool) (report : Report) : Prop :=
  ∃ reply, (Line.fresh driver.link size).Accepts driver.config driver.state.command []
      driver.state.minimumInfo reply ∧
    Report.ofReply driver.state hasStatus reply = .ok report

/-- A driver reads a report exactly if it accepts a reply that the report is on. -/
theorem read_eq_ok_iff {driver : Driver τ size} {hasStatus : String → Bool} {report : Report} :
    (driver.read hasStatus).1 = .ok report ↔ driver.Reads hasStatus report := by
  unfold read Reads
  simp only [← Line.request_eq_ok_iff]
  generalize (Line.fresh driver.link size).request driver.config driver.state.command []
    driver.state.minimumInfo = requested
  obtain ⟨outcome, line⟩ := requested
  cases outcome with
  | error error => simp [Except.bind]
  | ok reply =>
    change (Report.ofReply driver.state hasStatus reply).mapError DriverError.frame = .ok report ↔
      ∃ reply', Except.ok reply = Except.ok reply' ∧
        Report.ofReply driver.state hasStatus reply' = .ok report
    rw [mapError_eq_ok_iff]
    simp

/-- The request of a poll step. -/
def pollOnce (driver : Driver τ size) : Except (DriverError ε) Reply × Line τ size :=
  (Line.fresh driver.link size).request driver.config driver.state.command []
    driver.state.minimumInfo

/-- Reading is one request for the state, and a report on the reply. -/
theorem read_eq (driver : Driver τ size) (hasStatus : String → Bool) :
    driver.read hasStatus =
      (driver.pollOnce.1.bind fun reply =>
        (Report.ofReply driver.state hasStatus reply).mapError DriverError.frame,
        driver.pollOnce.2.link) := rfl

/-- A poll step leaves the link as its request does. -/
theorem poll_link (driver : Driver τ size) (hasStatus : String → Bool) :
    (driver.poll hasStatus).2.link = driver.pollOnce.2.link := by
  show _ = (driver.read hasStatus).2
  unfold poll
  split <;> simp only [*]

/-- A poll step keeps the settings. -/
theorem poll_config (driver : Driver τ size) (hasStatus : String → Bool) :
    (driver.poll hasStatus).2.config = driver.config := by
  unfold poll
  split <;> rfl

/-- A poll step that reads reports, and goes on to the next state. -/
theorem poll_of_reads {driver : Driver τ size} {hasStatus : String → Bool} {report : Report}
    (read : driver.Reads hasStatus report) :
    ∃ link, driver.poll hasStatus =
      (report.events ++ [.markFresh], { driver with link, state := report.next }) := by
  have outcome := read_eq_ok_iff.2 read
  refine ⟨(driver.read hasStatus).2, ?_⟩
  unfold poll
  rw [← Prod.eta (driver.read hasStatus), outcome]

/-- A poll step that does not read marks the data as old, and stays. -/
theorem poll_of_not_reads {driver : Driver τ size} {hasStatus : String → Bool}
    (unread : ∀ report, ¬ driver.Reads hasStatus report) :
    ∃ link, driver.poll hasStatus = ([.markStale], { driver with link }) := by
  refine ⟨(driver.read hasStatus).2, ?_⟩
  unfold poll
  rw [← Prod.eta (driver.read hasStatus)]
  cases outcome : (driver.read hasStatus).1 with
  | error error => rfl
  | ok report => exact absurd (read_eq_ok_iff.1 outcome) (unread report)

end Driver

/-! ## The session -/

namespace Session

/-- What a poll step that succeeds does to a session. -/
structure Refreshed (session : Session τ σ size) (step : Step ε) (session' : Session τ σ size) :
    Prop where
  /-- The driver read a report, told it to the host, and goes where it says. -/
  read : ∃ report, session.driver.Reads (TelemetrySink.hasStatus session.sink) report ∧
    step.events = report.events ++ [.markFresh] ∧ session'.driver.state = report.next
  /-- The data is marked as fresh at the end. -/
  last : step.events.getLast? = some .markFresh
  /-- It is marked as fresh once. -/
  once : step.events.count .markFresh = 1
  /-- It is not marked as old. -/
  not_stale : .markStale ∉ step.events
  /-- The step says which state comes next. -/
  outcome_eq : step.outcome = .polled session'.driver.state
  /-- The settings are kept. -/
  config_eq : session'.driver.config = session.driver.config

/-- What a poll step that fails does to a session. -/
structure Stalled (session : Session τ σ size) (step : Step ε) (session' : Session τ σ size) :
    Prop where
  /-- There was no report to be read. -/
  unread : ∀ report, ¬ session.driver.Reads (TelemetrySink.hasStatus session.sink) report
  /-- The data is marked as old, and that is all the host is told. -/
  events_eq : step.events = [.markStale]
  /-- The state is kept. -/
  state_eq : session'.driver.state = session.driver.state
  /-- The step says that this state comes next. -/
  outcome_eq : step.outcome = .polled session.driver.state
  /-- The settings are kept. -/
  config_eq : session'.driver.config = session.driver.config

/-- A poll step that reads, with what the host is told of it. -/
theorem perform_poll_of_reads {session : Session τ σ size} {report : Report}
    (read : session.driver.Reads (TelemetrySink.hasStatus session.sink) report) :
    ∃ link, session.perform .poll =
      (⟨.polled report.next, report.events ++ [.markFresh]⟩,
        ⟨{ session.driver with link, state := report.next },
          TelemetrySink.emit (report.events ++ [.markFresh]) session.sink⟩) := by
  obtain ⟨link, polled⟩ := Driver.poll_of_reads read
  exact ⟨link, perform_poll polled⟩

/-- A poll step that reads a report tells the host all of it and marks the data as fresh. -/
theorem refreshed_of_reads {session : Session τ σ size} {report : Report}
    (read : session.driver.Reads (TelemetrySink.hasStatus session.sink) report) :
    session.Refreshed (session.perform .poll).1 (session.perform .poll).2 := by
  obtain ⟨link, performed⟩ := perform_poll_of_reads read
  have ⟨reply, _, made⟩ := read
  have fresh : .markFresh ∉ report.events := fun mem => by
    cases Report.isMark_ofReply made _ mem
  have stale : .markStale ∉ report.events := fun mem => by
    cases Report.isMark_ofReply made _ mem
  rw [performed]
  refine ⟨⟨report, read, rfl, rfl⟩, ?_, ?_, ?_, rfl, rfl⟩
  · simp
  · rw [List.count_append, List.count_eq_zero.2 fresh]
    rfl
  · simpa using stale

/-- A poll step that reads none marks the data as old and keeps the state. -/
theorem stalled_of_not_reads {session : Session τ σ size}
    (unread : ∀ report, ¬ session.driver.Reads (TelemetrySink.hasStatus session.sink) report) :
    session.Stalled (session.perform .poll).1 (session.perform .poll).2 := by
  obtain ⟨link, polled⟩ := Driver.poll_of_not_reads unread
  rw [perform_poll polled]
  exact ⟨unread, rfl, rfl, rfl, rfl⟩

/-- **A poll step is all or nothing.** It either reads, reports and marks the data as fresh once, at
the end, or it tells the host that the data is old, and nothing else changes. Of a reply that is too
short, rejected, damaged or without one of its fields nothing is ever told. -/
theorem poll_is_all_or_nothing (session : Session τ σ size) :
    let step := (session.perform .poll).1
    let session' := (session.perform .poll).2
    Xor (session.Refreshed step session') (session.Stalled step session') ∧
      session'.sink = TelemetrySink.emit step.events session.sink ∧
      ∀ got line', (Line.fresh session.driver.link size).exchange session.driver.config
          session.driver.state.command [] = (.ok got, line') →
        (got < Frame.headerLength + session.driver.state.minimumInfo ∨
          (line'.reply got).returnCode ≠ .ok 0x00 ∨
          (session.driver.config.strict = true ∧ (line'.reply got).verify ≠ .ok ()) ∨
          ∃ fault, Report.ofReply session.driver.state (TelemetrySink.hasStatus session.sink)
            (line'.reply got) = .error fault) →
        step.events = [.markStale] := by
  intro step session'
  refine ⟨?_, rfl, ?_⟩
  · by_cases reads : ∃ report,
        session.driver.Reads (TelemetrySink.hasStatus session.sink) report
    · obtain ⟨report, read⟩ := reads
      exact .inl ⟨refreshed_of_reads read, fun stalled => stalled.unread report read⟩
    · have unread := not_exists.1 reads
      refine .inr ⟨stalled_of_not_reads unread, fun refreshed => ?_⟩
      obtain ⟨report, read, -⟩ := refreshed.read
      exact unread report read
  · intro got line' exchanged unusable
    have unread : ∀ report,
        ¬ session.driver.Reads (TelemetrySink.hasStatus session.sink) report := by
      rintro report ⟨reply, ⟨got', line'', exchanged', rfl, accepted⟩, made⟩
      obtain ⟨rfl, rfl⟩ : got = got' ∧ line' = line'' := by
        rw [exchanged, Prod.mk.injEq, Except.ok.injEq] at exchanged'
        exact exchanged'
      rcases unusable with short | rejected | ⟨strict, damaged⟩ | ⟨fault, missing⟩
      · exact absurd accepted.enough (Nat.not_le.2 short)
      · exact rejected accepted.success
      · exact damaged (accepted.intact strict)
      · rw [missing] at made
        cases made
    exact (stalled_of_not_reads unread).events_eq

end Session

end UpsTelemetry
