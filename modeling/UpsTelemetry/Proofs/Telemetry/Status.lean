import UpsTelemetry.Proofs.Sink.Recorder
import UpsTelemetry.Proofs.Telemetry.Advance
import UpsTelemetry.Proofs.Telemetry.Report

/-!
# How reports change the status

A report replaces the status once, before everything else it has to say, or not at all
(`OneReplacement`), and the only words it has for the status are those of a power path and none
(`StatusToken.words`). The on/off status always replaces it. Measurements do exactly if they
contradict it (`AnalogReading.report_of_contradicts`, `AnalogReading.report_of_agrees`).
-/

namespace UpsTelemetry

open SinkEvent (replaceStatus)

/-- What a driver may put in the place of the status. -/
def StatusToken.words : List (List StatusToken) :=
  [[], [.online], [.onBattery], [.online, .bypass]]

/-- The status is replaced by a word first of all and never again, or is not touched. -/
inductive OneReplacement : List SinkEvent → Prop
  /-- No event is about the status. -/
  | none {events : List SinkEvent} (others : ∀ event ∈ events, event.isStatus = false) :
      OneReplacement events
  /-- The status is replaced before everything else. -/
  | first {tokens : List StatusToken} {rest : List SinkEvent} (word : tokens ∈ StatusToken.words)
      (others : ∀ event ∈ rest, event.isStatus = false) :
      OneReplacement (replaceStatus tokens ++ rest)

/-- What is not about the status may follow a replacement. -/
theorem OneReplacement.append {events more : List SinkEvent} (once : OneReplacement events)
    (others : ∀ event ∈ more, event.isStatus = false) : OneReplacement (events ++ more) := by
  cases once with
  | none quiet =>
    apply OneReplacement.none
    exact List.forall_mem_append.2 ⟨quiet, others⟩
  | first word quiet =>
    rw [List.append_assoc]
    apply OneReplacement.first word
    exact List.forall_mem_append.2 ⟨quiet, others⟩

/-- After such events the committed status is what it was, or is a word. -/
theorem OneReplacement.status_emit {events : List SinkEvent} (once : OneReplacement events)
    (recorder : Recorder) :
    (TelemetrySink.emit events recorder).status = recorder.status ∨
      (TelemetrySink.emit events recorder).status ∈
        StatusToken.words.map (List.map StatusToken.name) := by
  cases once with
  | none quiet => exact .inl (Recorder.statusUntouched_emit quiet recorder).status_eq
  | @first tokens rest word quiet =>
    right
    rw [TelemetrySink.emit_append, Recorder.emit_replaceStatus,
      (Recorder.statusUntouched_emit quiet _).status_eq]
    exact List.mem_map_of_mem word

/-- A publication is not about the status. -/
theorem SinkEvent.isStatus_of_isPublication {event : SinkEvent}
    (publishes : event.isPublication = true) : event.isStatus = false := by
  cases event with
  | set name value => rfl
  | _ => cases publishes

/-! ## Power paths -/

/-- The tokens of a power path are a word, and so are those of an unknown one. -/
theorem PowerPath.tokens_mem_words (path : Option PowerPath) :
    (path.map tokens).getD [] ∈ StatusToken.words := by
  match path with
  | none => decide
  | some .online => decide
  | some .onBattery => decide
  | some .onBypass => decide

/-- The on/off status replaces the status once. -/
theorem OnOffStatus.oneReplacement_report (status : OnOffStatus) :
    OneReplacement status.report.events := by
  rw [status.report_events]
  apply OneReplacement.first (PowerPath.tokens_mem_words status.path)
  exact fun event mem => SinkEvent.isStatus_of_isPublication
    (status.isPublication_publications event mem)

/-! ## Measurements -/

namespace AnalogReading

/-- The whole volts are the hundredths, truncated. -/
theorem inputVolts_eq (reading : AnalogReading) :
    reading.inputVolts = reading.inputVoltage.toNat / 100 := by
  show reading.inputVoltage.toNat * 1 / 100 = _
  rw [Nat.mul_one]

/-- The measurements are not about the status. -/
theorem isStatus_publications (reading : AnalogReading) :
    ∀ event ∈ reading.publications, event.isStatus = false :=
  fun event mem => SinkEvent.isStatus_of_isPublication
    (reading.isPublication_publications event mem)

/-- The token that an input voltage calls for. -/
def powerToken (reading : AnalogReading) : StatusToken :=
  if reading.inputVolts = 0 then .onBattery else .online

variable {reading : AnalogReading} {hasStatus : String → Bool}

/-- A status that contradicts the voltage is replaced by the token the voltage calls for, and
warnings are read next. -/
theorem report_of_contradicts (contradicts : reading.Contradicts hasStatus) :
    reading.report hasStatus =
      ⟨replaceStatus [reading.powerToken] ++ reading.publications, .warning⟩ := by
  have corrected : reading.correctedStatus? hasStatus = some [reading.powerToken] := by
    unfold correctedStatus? powerToken StatusToken.name
    rcases contradicts with ⟨dead, online⟩ | ⟨live, onBattery⟩
    · rw [if_pos dead, if_pos dead, if_pos online]
    · have notDead := Nat.ne_of_gt live
      rw [if_neg notDead, if_neg notDead, if_pos onBattery]
  unfold report
  rw [corrected]

/-- A status that agrees with the voltage is not touched, and the data flag decides. -/
theorem report_of_agrees (agrees : ¬ reading.Contradicts hasStatus) :
    reading.report hasStatus = ⟨reading.publications, reading.flag.redirect .analog⟩ := by
  have kept : reading.correctedStatus? hasStatus = none := by
    rw [← Option.not_isSome_iff_eq_none, correctedStatus?_isSome_iff]
    exact agrees
  unfold report
  rw [kept]

/-- The token that the voltage speaks for is one of the words by itself. -/
theorem powerToken_mem_words (reading : AnalogReading) :
    [reading.powerToken] ∈ StatusToken.words := by
  unfold powerToken
  split <;> decide

/-- The measurements replace the status once, or not at all. -/
theorem oneReplacement_report (reading : AnalogReading) (hasStatus : String → Bool) :
    OneReplacement (reading.report hasStatus).events := by
  by_cases contradicts : reading.Contradicts hasStatus
  · rw [report_of_contradicts contradicts]
    exact .first reading.powerToken_mem_words reading.isStatus_publications
  · rw [report_of_agrees contradicts]
    exact .none reading.isStatus_publications

end AnalogReading

/-! ## Reports -/

/-- Replacing the alarms is not about the status. -/
theorem SinkEvent.isStatus_replaceAlarms {names : List String} :
    ∀ event ∈ replaceAlarms names, event.isStatus = false := by
  intro event mem
  simp only [replaceAlarms, List.cons_append, List.mem_cons, List.mem_append, List.mem_map,
    List.not_mem_nil, or_false] at mem
  rcases mem with rfl | ⟨name, -, rfl⟩ | rfl <;> rfl

/-- Every report replaces the status at most once, by a word. -/
theorem Report.oneReplacement_ofReply {state : PollState} {hasStatus : String → Bool}
    {reply : Reply} {report : Report} (made : Report.ofReply state hasStatus reply = .ok report) :
    OneReplacement report.events := by
  cases state with
  | onOff =>
    obtain ⟨status, -, rfl⟩ := map_eq_ok_iff.1 made
    exact status.oneReplacement_report
  | analog =>
    obtain ⟨reading, -, rfl⟩ := map_eq_ok_iff.1 made
    exact reading.oneReplacement_report hasStatus
  | warning =>
    obtain ⟨active, -, rfl⟩ := map_eq_ok_iff.1 made
    exact .none SinkEvent.isStatus_replaceAlarms
  | parameters =>
    obtain ⟨parameters, -, rfl⟩ := map_eq_ok_iff.1 made
    exact .none fun event mem => SinkEvent.isStatus_of_isPublication
      (parameters.isPublication_report event mem)

end UpsTelemetry
