import UpsTelemetry.Telemetry.Report

/-!
# What reports consist of

A report on warnings replaces the alarms, and that is all it does. Any other may replace the status,
and then it publishes variables (`Report.events_ofReply`). It never says whether the data is fresh
(`Report.isMark_ofReply`): that is for the poll step to say, once, after the report.
-/

namespace UpsTelemetry

/-- An outcome that is mapped succeeds as it did before. -/
theorem map_eq_ok_iff {ε α β : Type} {outcome : Except ε α} {f : α → β} {result : β} :
    outcome.map f = .ok result ↔ ∃ value, outcome = .ok value ∧ f value = result := by
  cases outcome with
  | error error => simp [Except.map]
  | ok value => simp [Except.map]

/-- Renaming errors does not touch success. -/
theorem mapError_eq_ok_iff {ε ε' α : Type} {outcome : Except ε α} {f : ε → ε'} {value : α} :
    outcome.mapError f = .ok value ↔ outcome = .ok value := by
  cases outcome with
  | error error => exact iff_of_false nofun nofun
  | ok first =>
    change Except.ok first = Except.ok value ↔ _
    rw [Except.ok.injEq, Except.ok.injEq]

open SinkEvent (replaceStatus replaceAlarms)

/-! ## Publications -/

/-- Whether an event publishes a value under a variable. -/
def SinkEvent.isPublication : SinkEvent → Bool
  | set _ _ => true
  | _ => false

/-- The measurements are publications. -/
theorem AnalogReading.isPublication_publications (reading : AnalogReading) :
    ∀ event ∈ reading.publications, event.isPublication = true := by
  intro event mem
  simp only [publications, List.mem_cons, List.not_mem_nil, or_false] at mem
  rcases mem with rfl | rfl | rfl | rfl | rfl | rfl | rfl | rfl | rfl <;> rfl

/-- All that is said of the parameters is a publication. -/
theorem SystemParameters.isPublication_report (parameters : SystemParameters) :
    ∀ event ∈ parameters.report.events, event.isPublication = true := by
  intro event mem
  simp only [report, List.mem_append, List.mem_cons, List.not_mem_nil, or_false,
    List.mem_ite_nil_right] at mem
  rcases mem with (((rfl | rfl) | ⟨-, rfl⟩) | ⟨-, rfl⟩) | rfl <;> rfl

/-- The variables that a report on the on/off status publishes, in order. -/
def OnOffStatus.publications (status : OnOffStatus) : List SinkEvent :=
  (status.charger.map fun charger => .publish .charger charger.text).toList ++
    (status.batteryTest.map fun test => .publish .testResult test.text).toList

/-- All that is said of the battery is. -/
theorem OnOffStatus.isPublication_publications (status : OnOffStatus) :
    ∀ event ∈ status.publications, event.isPublication = true := by
  intro event mem
  simp only [publications, List.mem_append, Option.mem_toList, Option.map_eq_some_iff] at mem
  rcases mem with ⟨charger, -, rfl⟩ | ⟨test, -, rfl⟩
  · rfl
  · rfl

/-- The report on the on/off status replaces the status first, and then publishes. -/
theorem OnOffStatus.report_events (status : OnOffStatus) :
    status.report.events =
      replaceStatus ((status.path.map PowerPath.tokens).getD []) ++ status.publications :=
  List.append_assoc _ _ _

/-! ## Reports -/

/-- What a report on a reply tells the host. -/
inductive ReportEvents (state : PollState) (reply : Reply) : List SinkEvent → Prop
  /-- The alarms are replaced by the active warnings. -/
  | alarms {active : List String} (warning : state = .warning)
      (read : Warnings.ofReply reply = .ok active) : ReportEvents state reply (replaceAlarms active)
  /-- The status is replaced, and then variables are published. -/
  | status {tokens : List StatusToken} {published : List SinkEvent} (other : state ≠ .warning)
      (only : ∀ event ∈ published, event.isPublication = true) :
      ReportEvents state reply (replaceStatus tokens ++ published)
  /-- Variables are published. -/
  | published {events : List SinkEvent} (other : state ≠ .warning)
      (only : ∀ event ∈ events, event.isPublication = true) :
      ReportEvents state reply events

/-- The events of a report are those of the record that the reply holds. -/
theorem Report.events_ofReply {state : PollState} {hasStatus : String → Bool} {reply : Reply}
    {report : Report} (made : Report.ofReply state hasStatus reply = .ok report) :
    ReportEvents state reply report.events := by
  cases state with
  | onOff =>
    obtain ⟨status, -, rfl⟩ := map_eq_ok_iff.1 made
    rw [status.report_events]
    exact .status nofun status.isPublication_publications
  | analog =>
    obtain ⟨reading, -, rfl⟩ := map_eq_ok_iff.1 made
    unfold AnalogReading.report
    split
    · exact .status nofun reading.isPublication_publications
    · exact .published nofun reading.isPublication_publications
  | warning =>
    obtain ⟨active, read, rfl⟩ := map_eq_ok_iff.1 made
    exact .alarms rfl read
  | parameters =>
    obtain ⟨parameters, -, rfl⟩ := map_eq_ok_iff.1 made
    exact .published nofun parameters.isPublication_report

/-! ## Marks -/

/-- Whether an event says that the data is fresh or old. -/
def SinkEvent.isMark : SinkEvent → Bool
  | markStale => true
  | markFresh => true
  | _ => false

/-- A publication is no mark. -/
theorem SinkEvent.isMark_of_isPublication {event : SinkEvent}
    (publishes : event.isPublication = true) : event.isMark = false := by
  cases event with
  | set name value => rfl
  | _ => cases publishes

/-- Replacing the status marks nothing. -/
theorem SinkEvent.isMark_replaceStatus {tokens : List StatusToken} :
    ∀ event ∈ replaceStatus tokens, event.isMark = false := by
  intro event mem
  simp only [replaceStatus, List.cons_append, List.mem_cons, List.mem_append, List.mem_map,
    List.not_mem_nil, or_false] at mem
  rcases mem with rfl | ⟨token, -, rfl⟩ | rfl <;> rfl

/-- Replacing the alarms marks nothing. -/
theorem SinkEvent.isMark_replaceAlarms {names : List String} :
    ∀ event ∈ replaceAlarms names, event.isMark = false := by
  intro event mem
  simp only [replaceAlarms, List.cons_append, List.mem_cons, List.mem_append, List.mem_map,
    List.not_mem_nil, or_false] at mem
  rcases mem with rfl | ⟨name, -, rfl⟩ | rfl <;> rfl

/-- No report marks the data. -/
theorem Report.isMark_ofReply {state : PollState} {hasStatus : String → Bool} {reply : Reply}
    {report : Report} (made : Report.ofReply state hasStatus reply = .ok report) :
    ∀ event ∈ report.events, event.isMark = false := by
  have shape := events_ofReply made
  generalize report.events = events at shape ⊢
  intro event mem
  cases shape with
  | alarms => exact SinkEvent.isMark_replaceAlarms event mem
  | published other only => exact SinkEvent.isMark_of_isPublication (only event mem)
  | status other only =>
    rcases List.mem_append.1 mem with mem | mem
    · exact SinkEvent.isMark_replaceStatus event mem
    · exact SinkEvent.isMark_of_isPublication (only event mem)

end UpsTelemetry
