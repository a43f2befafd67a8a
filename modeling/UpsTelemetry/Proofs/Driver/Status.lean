import UpsTelemetry.Bench.ScriptedLink
import UpsTelemetry.Bench.SimulatedUps
import UpsTelemetry.Proofs.Driver.PollCycle
import UpsTelemetry.Proofs.Telemetry.Status

/-!
# The published status

A host that is told of the status by its driver alone never sees a word that the driver does not
have, and after measurements it never sees one that the input voltage contradicts.

* `Session.oneReplacement_perform`: one operation replaces the status at most once.
* `Session.status_run`: the status after a run, by induction over its operations.
* `Session.Corrected`, `Session.Agreed`: what measurements do to the status.
* `Session.status_agrees_with_voltage`: which of the two it is, and what the status may be at all.
-/

namespace UpsTelemetry

variable {τ ε σ : Type} {size : Nat} [Link τ ε] [TelemetrySink σ]

namespace Session

/-! ## One operation -/

/-- A poll step that succeeded has read a report. -/
theorem reads_of_refreshes {session : Session τ σ size}
    (refreshes : (session.perform .poll).1.refreshes = true) :
    ∃ report, session.driver.Reads (TelemetrySink.hasStatus session.sink) report := by
  by_contra unread
  have stalled := stalled_of_not_reads (not_exists.1 unread)
  have fresh : .markFresh ∈ (session.perform .poll).1.events := of_decide_eq_true refreshes
  rw [stalled.events_eq, List.mem_singleton] at fresh
  cases fresh

/-- An operation replaces the status at most once, by a word. -/
theorem oneReplacement_perform (session : Session τ σ size) (operation : Operation) :
    OneReplacement (session.perform operation).1.events := by
  have told := session.told_perform operation
  generalize (session.perform operation).1.events = events at told ⊢
  cases told with
  | reported accepts made =>
    apply (Report.oneReplacement_ofReply made).append
    simp [SinkEvent.isStatus]
  | stalled unread =>
    apply OneReplacement.none
    simp [SinkEvent.isStatus]
  | identified =>
    apply OneReplacement.none
    intro event mem
    exact SinkEvent.isStatus_of_isPublication (Driver.isPublication_identityEvents event mem)
  | nothing other => exact .none nofun

/-! ## Runs -/

/-- What the driver may put in the place of the status, as the host knows it. -/
def statusWords : List (List String) :=
  [[], ["OL"], ["OB"], ["OL", "BYPASS"]]

/-- The words are those of the driver, spelt out. -/
theorem statusWords_eq : statusWords = StatusToken.words.map (List.map StatusToken.name) := rfl

/-- A status that is a word stays one, whatever is done with the driver. -/
theorem status_run {session : Session τ Recorder size} (word : session.sink.status ∈ statusWords)
    (operations : List Operation) :
    (run operations session).2.sink.status ∈ statusWords := by
  induction operations generalizing session with
  | nil => exact word
  | cons operation rest ih =>
    show (run rest (session.perform operation).2).2.sink.status ∈ statusWords
    apply ih
    have once := session.oneReplacement_perform operation
    rw [perform_sink]
    rcases once.status_emit session.sink with kept | replaced
    · rw [kept]
      exact word
    · rw [statusWords_eq]
      exact replaced

/-! ## Measurements -/

/-- A step has corrected a status that contradicted the measured voltage. -/
structure Corrected (token : String) (session : Session τ Recorder size) (step : Step ε)
    (after : Session τ Recorder size) : Prop where
  /-- The status is the token that the voltage calls for, and no other. -/
  status_eq : after.sink.status = [token]
  /-- It was committed once. -/
  commits_eq : after.sink.statusCommits = session.sink.statusCommits + 1
  /-- The host was told so in one replacement, and then nothing more of the status. -/
  events_eq : ∃ rest, step.events = [.beginStatus, .setStatus token, .commitStatus] ++ rest ∧
    ∀ event ∈ rest, event.isStatus = false
  /-- A warning must have been missed. -/
  state_eq : after.driver.state = .warning

/-- A step has found that the status agrees with the measured voltage. -/
structure Agreed (flag : DataFlag) (session : Session τ Recorder size) (step : Step ε)
    (after : Session τ Recorder size) : Prop where
  /-- The status is kept. -/
  untouched : Recorder.StatusUntouched session.sink after.sink
  /-- The host was told nothing of it. -/
  others : ∀ event ∈ step.events, event.isStatus = false
  /-- The data flag alone decides what is read next. -/
  leads : FlagLeads flag after.driver.state

section measured

variable {session : Session τ Recorder size} {reply : Reply} {reading : AnalogReading}

/-- A poll step that reads measurements tells the host what they report. -/
theorem perform_poll_of_reading (analog : session.driver.state = .analog)
    (accepts : (Line.fresh session.driver.link size).Accepts session.driver.config .readAnalog []
      PollState.analog.minimumInfo reply)
    (read : AnalogReading.ofReply reply = .ok reading) :
    ∃ link, session.perform .poll =
      (⟨.polled (reading.report (TelemetrySink.hasStatus session.sink)).next,
          (reading.report (TelemetrySink.hasStatus session.sink)).events ++ [.markFresh]⟩,
        ⟨{ session.driver with
            link, state := (reading.report (TelemetrySink.hasStatus session.sink)).next },
          TelemetrySink.emit ((reading.report (TelemetrySink.hasStatus session.sink)).events ++
            [.markFresh]) session.sink⟩) := by
  have reads : session.driver.Reads (TelemetrySink.hasStatus session.sink)
      (reading.report (TelemetrySink.hasStatus session.sink)) := by
    refine ⟨reply, ?_, ?_⟩
    · rw [analog]
      exact accepts
    · rw [analog]
      exact map_eq_ok_iff.2 ⟨reading, read, rfl⟩
  exact perform_poll_of_reads reads

/-- Neither the measurements nor the mark that closes a step touch the status. -/
theorem isStatus_publications_markFresh (reading : AnalogReading) :
    ∀ event ∈ reading.publications ++ [SinkEvent.markFresh], event.isStatus = false := by
  intro event mem
  rcases List.mem_append.1 mem with published | marked
  · exact reading.isStatus_publications event published
  · obtain rfl := List.mem_singleton.1 marked
    rfl

variable (analog : session.driver.state = .analog)
  (accepts : (Line.fresh session.driver.link size).Accepts session.driver.config .readAnalog []
    PollState.analog.minimumInfo reply)
  (read : AnalogReading.ofReply reply = .ok reading)

include analog accepts read

/-- Measurements that contradict the status correct it. -/
theorem corrected_of_contradicts
    (contradicts : reading.Contradicts (TelemetrySink.hasStatus session.sink)) :
    session.Corrected reading.powerToken.name (session.perform .poll).1
      (session.perform .poll).2 := by
  have others := isStatus_publications_markFresh reading
  obtain ⟨link, performed⟩ := perform_poll_of_reading analog accepts read
  rw [performed, AnalogReading.report_of_contradicts contradicts, List.append_assoc]
  have untouched := Recorder.statusUntouched_emit others
    (TelemetrySink.emit (SinkEvent.replaceStatus [reading.powerToken]) session.sink)
  rw [← TelemetrySink.emit_append, Recorder.emit_replaceStatus] at untouched
  exact ⟨untouched.status_eq, untouched.commits_eq, ⟨_, rfl, others⟩, rfl⟩

/-- Without input voltage the mains cannot feed the load. -/
theorem corrected_of_dead (dead : reading.inputVoltage.toNat / 100 = 0)
    (online : "OL" ∈ session.sink.status) :
    session.Corrected "OB" (session.perform .poll).1 (session.perform .poll).2 := by
  rw [← reading.inputVolts_eq] at dead
  have token : reading.powerToken.name = "OB" := by
    unfold AnalogReading.powerToken
    rw [if_pos dead]
    rfl
  have corrected := corrected_of_contradicts analog accepts read
    (.inl ⟨dead, Recorder.hasStatus_eq_true_iff.2 online⟩)
  rw [token] at corrected
  exact corrected

/-- With input voltage the battery does not have to. -/
theorem corrected_of_live (live : 0 < reading.inputVoltage.toNat / 100)
    (onBattery : "OB" ∈ session.sink.status) :
    session.Corrected "OL" (session.perform .poll).1 (session.perform .poll).2 := by
  rw [← reading.inputVolts_eq] at live
  have token : reading.powerToken.name = "OL" := by
    unfold AnalogReading.powerToken
    rw [if_neg (Nat.ne_of_gt live)]
    rfl
  have corrected := corrected_of_contradicts analog accepts read
    (.inr ⟨live, Recorder.hasStatus_eq_true_iff.2 onBattery⟩)
  rw [token] at corrected
  exact corrected

/-- Measurements that agree with the status leave it. -/
theorem agreed_of_consistent
    (offline : reading.inputVoltage.toNat / 100 = 0 → "OL" ∉ session.sink.status)
    (mains : 0 < reading.inputVoltage.toNat / 100 → "OB" ∉ session.sink.status) :
    session.Agreed reading.flag (session.perform .poll).1 (session.perform .poll).2 := by
  have agrees : ¬ reading.Contradicts (TelemetrySink.hasStatus session.sink) := by
    unfold AnalogReading.Contradicts
    rw [reading.inputVolts_eq, Recorder.hasStatus_eq_true_iff, Recorder.hasStatus_eq_true_iff]
    rintro (⟨dead, online⟩ | ⟨live, onBattery⟩)
    · exact offline dead online
    · exact mains live onBattery
  have others := isStatus_publications_markFresh reading
  obtain ⟨link, performed⟩ := perform_poll_of_reading analog accepts read
  rw [performed, AnalogReading.report_of_agrees agrees]
  exact ⟨Recorder.statusUntouched_emit others session.sink, others,
    reading.flag.flagLeads_redirect⟩

/-- Without input voltage the status does not have the mains feed the load. -/
theorem not_online_of_dead (dead : reading.inputVoltage.toNat / 100 = 0) :
    "OL" ∉ (session.perform .poll).2.sink.status := by
  by_cases online : "OL" ∈ session.sink.status
  · rw [(corrected_of_dead analog accepts read dead online).status_eq]
    decide
  · have kept := agreed_of_consistent analog accepts read (fun _ => online) fun live =>
      absurd dead (Nat.ne_of_gt live)
    rw [kept.untouched.status_eq]
    exact online

/-- With input voltage it does not have the battery feed it. -/
theorem not_onBattery_of_live (live : 0 < reading.inputVoltage.toNat / 100) :
    "OB" ∉ (session.perform .poll).2.sink.status := by
  by_cases onBattery : "OB" ∈ session.sink.status
  · rw [(corrected_of_live analog accepts read live onBattery).status_eq]
    decide
  · have kept := agreed_of_consistent analog accepts read
      (fun dead => absurd dead (Nat.ne_of_gt live)) fun _ => onBattery
    rw [kept.untouched.status_eq]
    exact onBattery

end measured

/-- **The published status agrees with the input voltage.** After measurements were read, the status
does not have the mains feed the load if there is less than a volt of input, nor the battery if
there is more. It is replaced, by the one token that the voltage calls for, exactly if it
contradicted the voltage before, and then warnings are read next whatever the data flag says;
otherwise it is not touched and the data flag alone decides. And a status that is empty at first,
and is left to the driver, is never anything but one of four words, none of which has both. -/
theorem status_agrees_with_voltage (session : Session τ Recorder size) :
    let step : Step ε := (session.perform .poll).1
    let after := (session.perform .poll).2
    (session.driver.state = .analog → step.refreshes = true →
      ∃ reply reading,
        (Line.fresh session.driver.link size).Accepts session.driver.config .readAnalog []
          PollState.analog.minimumInfo reply ∧
        AnalogReading.ofReply reply = .ok reading ∧
        let volts := reading.inputVoltage.toNat / 100
        (volts = 0 → "OL" ∉ after.sink.status) ∧
        (0 < volts → "OB" ∉ after.sink.status) ∧
        (volts = 0 → "OL" ∈ session.sink.status → session.Corrected "OB" step after) ∧
        (0 < volts → "OB" ∈ session.sink.status → session.Corrected "OL" step after) ∧
        ((volts = 0 → "OL" ∉ session.sink.status) → (0 < volts → "OB" ∉ session.sink.status) →
          session.Agreed reading.flag step after)) ∧
    (session.sink.status = [] → ∀ operations,
      (run operations session).2.sink.status ∈ [[], ["OL"], ["OB"], ["OL", "BYPASS"]] ∧
        ¬ ("OL" ∈ (run operations session).2.sink.status ∧
          "OB" ∈ (run operations session).2.sink.status)) := by
  intro step after
  refine ⟨fun analog refreshes => ?_, fun empty operations => ?_⟩
  · obtain ⟨report, reply, accepts, made⟩ := reads_of_refreshes refreshes
    rw [analog] at accepts made
    obtain ⟨reading, read, -⟩ := map_eq_ok_iff.1 made
    exact ⟨reply, reading, accepts, read, not_online_of_dead analog accepts read,
      not_onBattery_of_live analog accepts read, corrected_of_dead analog accepts read,
      corrected_of_live analog accepts read, agreed_of_consistent analog accepts read⟩
  · have word : session.sink.status ∈ statusWords := by
      rw [empty]
      exact List.mem_cons_self
    have stays := status_run word operations
    refine ⟨stays, fun both => ?_⟩
    have never : ∀ status ∈ statusWords, ¬ ("OL" ∈ status ∧ "OB" ∈ status) := by decide
    exact never _ stays both

/-- A host that somehow has both tokens is left with one when there is no input voltage, and
warnings are read next though none is pending. A host that is told by the driver alone never has
both. -/
theorem status_agrees_with_voltage_of_both :
    let reply : Reply := ⟨SimulatedUps.reply 0x00 (SimulatedUps.infoWith 86 [])⟩
    let link : ScriptedLink := ⟨{}, [{ receive := .ok reply.raw }]⟩
    let session : Session ScriptedLink Recorder standardBufferSize :=
      ⟨⟨link, .standard, .analog⟩, .ofStatus ["OL", "OB"]⟩
    let told : Session ScriptedLink Recorder standardBufferSize :=
      ⟨⟨link, .standard, .analog⟩, .empty⟩
    session.driver.state = .analog ∧ (session.perform .poll).1.refreshes = true ∧
      session.Corrected "OB" (session.perform .poll).1 (session.perform .poll).2 ∧
      told.sink.status = [] ∧
      ¬ ("OL" ∈ (run [.poll, .poll] told).2.sink.status ∧
        "OB" ∈ (run [.poll, .poll] told).2.sink.status) := by
  intro reply link session told
  have refreshes : (session.perform .poll).1.refreshes = true := by decide +kernel
  obtain ⟨measured, -⟩ := status_agrees_with_voltage session
  obtain ⟨other, reading, accepts, read, -, -, corrected, -⟩ := measured rfl refreshes
  have accepted : ((Line.fresh link standardBufferSize).request .standard .readAnalog []
      PollState.analog.minimumInfo).1 = .ok reply := by decide +kernel
  obtain rfl : other = reply :=
    Except.ok.inj ((Line.request_eq_ok_iff.2 accepts).symm.trans accepted)
  have dead : (AnalogReading.ofReply reply).map AnalogReading.inputVoltage = .ok 0 := by
    decide +kernel
  rw [read] at dead
  refine ⟨rfl, refreshes, corrected ?_ (by decide), rfl, ?_⟩
  · rw [show reading.inputVoltage = 0 from Except.ok.inj dead]
    rfl
  · obtain ⟨-, words⟩ := status_agrees_with_voltage told
    exact (words rfl [.poll, .poll]).2

end Session

end UpsTelemetry
