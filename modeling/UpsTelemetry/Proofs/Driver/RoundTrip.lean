import UpsTelemetry.Proofs.Bench.Reply
import UpsTelemetry.Proofs.Driver.PollStep
import UpsTelemetry.Proofs.Telemetry.Scaling
import UpsTelemetry.Sink.Recorder

/-!
# What a UPS encodes is what the host is told

A UPS writes values into the fields of a telemetry frame; the rest of INFO may be any digits. A poll
step over a serial link takes the same values out again and publishes them.

* `Charger.table`, `BatteryTest.table`: the codes that have a meaning, and the words for them.
* `FrameValues`: the values of a frame, with the fields they are written to, the record that they
  make and the variables that the host finds them under. Offsets, codes, names, scales and texts are
  written out here, so that nothing cancels against the definitions that the driver reads by.
* `FrameValues.byte_info`, `FrameValues.word_info`: every value is read back where it was written.
* `FrameValues.decodedFrom_reply`: so the record is the one that was encoded.
* `Session.poll_undoes_encoding`: all of it for a session.
-/

namespace UpsTelemetry

open Decimal (pointed)
open SimulatedUps (Apart window placeAll)

/-! ## Codes -/

/-- The codes of the charger that have a meaning, with the state and the word for it. -/
def Charger.table : List (UInt8 × Charger × String) :=
  [(0xE0, .resting, "resting"), (0xE1, .charging, "charging"), (0xE2, .charging, "charging"),
    (0xE3, .discharging, "discharging")]

/-- The codes of the battery test that have a meaning, with the state and the words for it. -/
def BatteryTest.table : List (UInt8 × BatteryTest × String) :=
  [(0xE0, .inProgress, "In progress"), (0xE1, .idle, "Idle")]

/-- The driver gives a code the meaning that is in the table, and no other code has one. -/
theorem Charger.lookup_table (code : UInt8) :
    table.lookup code = (ofCode? code).map fun state => (state, state.text) := by
  refine Hex.forall_of_table code ?_
  decide +kernel

/-- So it does with the codes of the battery test. -/
theorem BatteryTest.lookup_table (code : UInt8) :
    table.lookup code = (ofCode? code).map fun state => (state, state.text) := by
  refine Hex.forall_of_table code ?_
  decide +kernel

/-- The state that the table has for a code. -/
theorem Charger.fst_lookup (code : UInt8) : (table.lookup code).map Prod.fst = ofCode? code := by
  rw [lookup_table, Option.map_map]
  exact Option.map_id_apply

/-- The state that the table has for a code of the battery test. -/
theorem BatteryTest.fst_lookup (code : UInt8) :
    (table.lookup code).map Prod.fst = ofCode? code := by
  rw [lookup_table, Option.map_map]
  exact Option.map_id_apply

/-! ## Records

A record is made of what its fields hold. -/

section records

variable {reply : Reply}

/-- The on/off record has the meanings of the codes in its fields. -/
theorem OnOffStatus.ofReply_of_fields {flag supply rectifier charger batteryTest : UInt8}
    (first : reply.byte DataFlag.offset = .ok flag) (second : reply.byte supplyAt = .ok supply)
    (third : reply.byte rectifierAt = .ok rectifier) (fourth : reply.byte chargerAt = .ok charger)
    (fifth : reply.byte batteryTestAt = .ok batteryTest) :
    ofReply reply = .ok ⟨⟨flag⟩, PowerPath.ofCodes? supply rectifier, Charger.ofCode? charger,
      BatteryTest.ofCode? batteryTest⟩ := by
  unfold ofReply
  rw [first, second, third, fourth, fifth]
  rfl

/-- The analog record has the counts in its fields. -/
theorem AnalogReading.ofReply_of_fields {reading : AnalogReading}
    (flag : reply.byte DataFlag.offset = .ok reading.flag.byte)
    (inputVoltage : reply.word inputVoltageAt = .ok reading.inputVoltage)
    (outputVoltage : reply.word outputVoltageAt = .ok reading.outputVoltage)
    (outputCurrent : reply.word outputCurrentAt = .ok reading.outputCurrent)
    (batteryVoltage : reply.word batteryVoltageAt = .ok reading.batteryVoltage)
    (outputFrequency : reply.word outputFrequencyAt = .ok reading.outputFrequency)
    (inputFrequency : reply.word inputFrequencyAt = .ok reading.inputFrequency)
    (realPower : reply.word realPowerAt = .ok reading.realPower)
    (apparentPower : reply.word apparentPowerAt = .ok reading.apparentPower)
    (backupTime : reply.word backupTimeAt = .ok reading.backupTime) :
    ofReply reply = .ok reading := by
  unfold ofReply
  rw [flag, inputVoltage, outputVoltage, outputCurrent, batteryVoltage, outputFrequency,
    inputFrequency, realPower, apparentPower, backupTime]
  rfl

/-- The record of the parameters has the numbers in its fields, and a limit is on if its number is
one. -/
theorem SystemParameters.ofReply_of_fields
    {nominalVoltage nominalFrequency bypassHigh bypassLow testInterval : UInt16}
    (first : reply.word nominalVoltageAt = .ok nominalVoltage)
    (second : reply.word nominalFrequencyAt = .ok nominalFrequency)
    (third : reply.word bypassHighAt = .ok bypassHigh)
    (fourth : reply.word bypassLowAt = .ok bypassLow)
    (fifth : reply.word testIntervalAt = .ok testInterval) :
    ofReply reply = .ok ⟨nominalVoltage, nominalFrequency, bypassHigh == 1, bypassLow == 1,
      testInterval⟩ := by
  unfold ofReply
  rw [first, second, third, fourth, fifth]
  rfl

end records

/-! ## Values -/

/-- The values of a telemetry frame, as a UPS has them. -/
inductive FrameValues
  /-- Those of the on/off frame, in codes. -/
  | onOff (flag supply rectifier charger batteryTest : UInt8)
  /-- Those of the analog frame, in counts. -/
  | analog (reading : AnalogReading)
  /-- Those of the system parameter frame. -/
  | parameters (nominalVoltage nominalFrequency bypassHigh bypassLow testInterval : UInt16)

namespace FrameValues

/-- The state that asks for the frame. -/
def state : FrameValues → PollState
  | onOff .. => .onOff
  | analog _ => .analog
  | parameters .. => .parameters

/-- What the UPS writes, and where in INFO. -/
def fields : FrameValues → List (Nat × Bytes)
  | onOff flag supply rectifier charger batteryTest =>
    [(0, Hex.ofByte flag), (2, Hex.ofByte supply), (6, Hex.ofByte rectifier),
      (8, Hex.ofByte charger), (10, Hex.ofByte batteryTest)]
  | analog reading =>
    [(0, Hex.ofByte reading.flag.byte), (2, Hex.ofWord reading.inputVoltage),
      (14, Hex.ofWord reading.outputVoltage), (26, Hex.ofWord reading.outputCurrent),
      (38, Hex.ofWord reading.batteryVoltage), (42, Hex.ofWord reading.outputFrequency),
      (54, Hex.ofWord reading.inputFrequency), (66, Hex.ofWord reading.realPower),
      (70, Hex.ofWord reading.apparentPower), (82, Hex.ofWord reading.backupTime)]
  | parameters nominalVoltage nominalFrequency bypassHigh bypassLow testInterval =>
    [(18, Hex.ofWord nominalVoltage), (22, Hex.ofWord nominalFrequency),
      (34, Hex.ofWord bypassHigh), (38, Hex.ofWord bypassLow), (78, Hex.ofWord testInterval)]

/-- An INFO of the UPS: some filler with the fields written over it. -/
def info (values : FrameValues) (filler : Bytes) : Bytes :=
  placeAll values.fields filler

/-- The record read out of a reply is that of the values. -/
def DecodedFrom (reply : Reply) : FrameValues → Prop
  | onOff flag supply rectifier charger batteryTest =>
    OnOffStatus.ofReply reply = .ok {
      flag := ⟨flag⟩
      path :=
        if supply = 0x01 then some (if rectifier = 0xE2 then .onBattery else .online)
        else if supply = 0x02 then some .onBypass
        else none
      charger := (Charger.table.lookup charger).map Prod.fst
      batteryTest := (BatteryTest.table.lookup batteryTest).map Prod.fst }
  | analog reading => AnalogReading.ofReply reply = .ok reading
  | parameters nominalVoltage nominalFrequency bypassHigh bypassLow testInterval =>
    SystemParameters.ofReply reply = .ok {
      nominalVoltage, nominalFrequency
      bypassHighEnabled := bypassHigh == 1
      bypassLowEnabled := bypassLow == 1
      testInterval }

/-- The variables that are published for the values, with their texts. A code without a meaning has
no text, and a limit that is off is not published. Hundredths are shown with two places, a time in
hundredths of an hour as minutes, tens and spans of three months as whole numbers. -/
def published : FrameValues → List (String × String)
  | onOff _ _ _ charger batteryTest =>
    ((Charger.table.lookup charger).map fun state => ("battery.charger.status", state.2)).toList ++
      ((BatteryTest.table.lookup batteryTest).map fun state => ("ups.test.result", state.2)).toList
  | analog reading =>
    [("input.voltage", pointed 2 reading.inputVoltage.toNat),
      ("output.voltage", pointed 2 reading.outputVoltage.toNat),
      ("output.current", pointed 2 reading.outputCurrent.toNat),
      ("battery.voltage", pointed 2 reading.batteryVoltage.toNat),
      ("output.frequency", pointed 2 reading.outputFrequency.toNat),
      ("input.frequency", pointed 2 reading.inputFrequency.toNat),
      ("ups.realpower", (reading.realPower.toNat * 10).repr),
      ("ups.power", (reading.apparentPower.toNat * 10).repr),
      ("battery.runtime.low", pointed 2 (reading.backupTime.toNat * 60))]
  | parameters nominalVoltage nominalFrequency bypassHigh bypassLow testInterval =>
    [("output.voltage.nominal", nominalVoltage.toNat.repr),
      ("output.frequency.nominal", nominalFrequency.toNat.repr)] ++
      (if bypassHigh = 1 then
        [("input.transfer.bypass.high", pointed 6 (highLimit nominalVoltage.toNat))] else []) ++
      (if bypassLow = 1 then [("input.transfer.bypass.low", "120")] else []) ++
      [("ups.test.interval", (testInterval.toNat * 324000).repr)]

/-- The events that publish the values. -/
def publications (values : FrameValues) : List SinkEvent :=
  values.published.map fun entry => .set entry.1 entry.2

/-- Nothing is published twice. -/
theorem nodup_published (values : FrameValues) : (values.published.map Prod.fst).Nodup := by
  cases values with
  | onOff flag supply rectifier charger batteryTest =>
    simp only [published]
    cases Charger.table.lookup charger <;> cases BatteryTest.table.lookup batteryTest <;> simp
  | analog reading =>
    simp only [published, List.map_cons, List.map_nil]
    decide
  | parameters nominalVoltage nominalFrequency bypassHigh bypassLow testInterval =>
    simp only [published]
    by_cases high : bypassHigh = 1 <;> by_cases low : bypassLow = 1 <;> simp [high, low]

/-! ## Fields -/

/-- The fields are inside the shortest INFO of the frame. -/
theorem fields_inside (values : FrameValues) :
    ∀ field ∈ values.fields, field.1 + field.2.length ≤ values.state.minimumInfo := by
  cases values <;> simp [fields, state, PollState.minimumInfo]

/-- No field overlaps another. -/
theorem fields_apart (values : FrameValues) :
    values.fields.Pairwise fun first second => Apart first.1 first.2.length second := by
  cases values <;> simp [fields, Apart]

/-- The fields are digits. -/
theorem isDigit_fields (values : FrameValues) :
    ∀ field ∈ values.fields, ∀ char ∈ field.2, Hex.isDigit char = true := by
  cases values with
  | onOff flag supply rectifier charger batteryTest =>
    simp only [fields, List.forall_mem_cons]
    exact ⟨Hex.isDigit_ofByte _, Hex.isDigit_ofByte _, Hex.isDigit_ofByte _, Hex.isDigit_ofByte _,
      Hex.isDigit_ofByte _, List.forall_mem_nil _⟩
  | analog reading =>
    simp only [fields, List.forall_mem_cons]
    exact ⟨Hex.isDigit_ofByte _, Hex.isDigit_ofWord _, Hex.isDigit_ofWord _, Hex.isDigit_ofWord _,
      Hex.isDigit_ofWord _, Hex.isDigit_ofWord _, Hex.isDigit_ofWord _, Hex.isDigit_ofWord _,
      Hex.isDigit_ofWord _, Hex.isDigit_ofWord _, List.forall_mem_nil _⟩
  | parameters nominalVoltage nominalFrequency bypassHigh bypassLow testInterval =>
    simp only [fields, List.forall_mem_cons]
    exact ⟨Hex.isDigit_ofWord _, Hex.isDigit_ofWord _, Hex.isDigit_ofWord _, Hex.isDigit_ofWord _,
      Hex.isDigit_ofWord _, List.forall_mem_nil _⟩

section filled

variable {values : FrameValues} {filler : Bytes}
  (covers : values.state.minimumInfo ≤ filler.length)

include covers

/-- The fields are inside any filler that is long enough for the frame. -/
theorem fields_inside_filler : ∀ field ∈ values.fields, field.1 + field.2.length ≤ filler.length :=
  fun field mem => Nat.le_trans (values.fields_inside field mem) covers

/-- INFO is as long as its filler. -/
theorem length_info : (values.info filler).length = filler.length :=
  SimulatedUps.length_placeAll (fields_inside_filler covers)

/-- A field that is written is in INFO, where it was written. -/
theorem window_info {field : Nat × Bytes} (mem : field ∈ values.fields) :
    window field.1 field.2.length (values.info filler) = field.2 :=
  SimulatedUps.window_placeAll (fields_inside_filler covers) values.fields_apart mem

variable {code : UInt8} {offset : Nat}

/-- A byte is read back where it was written. -/
theorem byte_info {value : UInt8} (position : Nat)
    (written : values.fields[position]? = some (offset, Hex.ofByte value)) :
    (Reply.mk (SimulatedUps.reply code (values.info filler))).byte offset = .ok value := by
  have mem := List.mem_of_getElem? written
  have inside := fields_inside_filler covers _ mem
  rw [← length_info covers] at inside
  exact SimulatedUps.byte_reply inside (window_info covers mem)

/-- A word is read back where it was written. -/
theorem word_info {value : UInt16} (position : Nat)
    (written : values.fields[position]? = some (offset, Hex.ofWord value)) :
    (Reply.mk (SimulatedUps.reply code (values.info filler))).word offset = .ok value := by
  have mem := List.mem_of_getElem? written
  have inside := fields_inside_filler covers _ mem
  rw [← length_info covers] at inside
  exact SimulatedUps.word_reply inside (window_info covers mem)

/-- The record that is read is the one that was encoded. -/
theorem decodedFrom_reply (code : UInt8) :
    values.DecodedFrom ⟨SimulatedUps.reply code (values.info filler)⟩ := by
  -- The fields are read in the order in which the frame lists them.
  cases values with
  | onOff flag supply rectifier charger batteryTest =>
    rw [DecodedFrom, Charger.fst_lookup, BatteryTest.fst_lookup]
    exact OnOffStatus.ofReply_of_fields (byte_info covers 0 rfl) (byte_info covers 1 rfl)
      (byte_info covers 2 rfl) (byte_info covers 3 rfl) (byte_info covers 4 rfl)
  | analog reading =>
    exact AnalogReading.ofReply_of_fields (byte_info covers 0 rfl) (word_info covers 1 rfl)
      (word_info covers 2 rfl) (word_info covers 3 rfl) (word_info covers 4 rfl)
      (word_info covers 5 rfl) (word_info covers 6 rfl) (word_info covers 7 rfl)
      (word_info covers 8 rfl) (word_info covers 9 rfl)
  | parameters nominalVoltage nominalFrequency bypassHigh bypassLow testInterval =>
    exact SystemParameters.ofReply_of_fields (word_info covers 0 rfl) (word_info covers 1 rfl)
      (word_info covers 2 rfl) (word_info covers 3 rfl) (word_info covers 4 rfl)

end filled

/-- An INFO with digits for a filler is digits. -/
theorem isDigit_info (values : FrameValues) {filler : Bytes}
    (digits : ∀ char ∈ filler, Hex.isDigit char = true) :
    ∀ char ∈ values.info filler, Hex.isDigit char = true := by
  intro char mem
  rcases SimulatedUps.mem_placeAll mem with ⟨field, written, inside⟩ | filled
  · exact values.isDigit_fields field written char inside
  · exact digits char filled

/-! ## Reports -/

/-- The report on the record publishes the values; before that it may replace the status. -/
theorem report_of_decodedFrom {values : FrameValues} {reply : Reply}
    (decoded : values.DecodedFrom reply) (hasStatus : String → Bool) :
    ∃ report before, Report.ofReply values.state hasStatus reply = .ok report ∧
      (before = [] ∨ ∃ tokens, before = SinkEvent.replaceStatus tokens) ∧
      report.events = before ++ values.publications := by
  cases values with
  | onOff flag supply rectifier charger batteryTest =>
    have status : OnOffStatus.ofReply reply = .ok ⟨⟨flag⟩, PowerPath.ofCodes? supply rectifier,
        Charger.ofCode? charger, BatteryTest.ofCode? batteryTest⟩ := by
      rw [← Charger.fst_lookup, ← BatteryTest.fst_lookup]
      exact decoded
    refine ⟨_, SinkEvent.replaceStatus (((PowerPath.ofCodes? supply rectifier).map
      PowerPath.tokens).getD []), map_eq_ok_iff.2 ⟨_, status, rfl⟩, .inr ⟨_, rfl⟩, ?_⟩
    simp only [OnOffStatus.report, publications, published, Charger.lookup_table,
      BatteryTest.lookup_table, List.append_assoc]
    congr 1
    cases Charger.ofCode? charger <;> cases BatteryTest.ofCode? batteryTest <;> rfl
  | analog reading =>
    have published_eq : reading.publications = (analog reading).publications := by
      simp only [AnalogReading.publications, (Scaling.shown _).tens, (Scaling.shown _).hundredths,
        (Scaling.shown _).backupMinutes]
      rfl
    cases corrected : reading.correctedStatus? hasStatus with
    | some tokens =>
      refine ⟨_, _, map_eq_ok_iff.2 ⟨_, decoded, rfl⟩, .inr ⟨tokens, rfl⟩, ?_⟩
      simp only [AnalogReading.report, corrected, published_eq]
    | none =>
      refine ⟨_, [], map_eq_ok_iff.2 ⟨_, decoded, rfl⟩, .inl rfl, ?_⟩
      simp only [AnalogReading.report, corrected, published_eq, List.nil_append]
  | parameters nominalVoltage nominalFrequency bypassHigh bypassLow testInterval =>
    have volts : bypassLowVolts.repr = "120" := by decide
    refine ⟨_, [], map_eq_ok_iff.2 ⟨_, decoded, rfl⟩, .inl rfl, ?_⟩
    simp only [SystemParameters.report, publications, published, ofSingle_bypassHigh,
      (Scaling.shown _).testSeconds, volts, beq_iff_eq]
    by_cases high : bypassHigh = 1 <;> by_cases low : bypassLow = 1 <;>
      simp only [high, low, if_true, if_false, List.nil_append, List.append_nil] <;> rfl

end FrameValues

/-! ## Sessions -/

namespace Session

variable {σ : Type} [TelemetrySink σ]

/-- **A poll step undoes what the UPS encoded.** Let a simulated UPS answer next with a frame that
has some values in its fields and any digits elsewhere in INFO, as much of it as the receive buffer
of a standard driver has room for. A driver that is to poll this frame accepts the reply and reads
the very record that was encoded. The host is told so once: after what there may be to say of the
status, every variable of the frame with its value, each once, and then that the data is fresh. -/
theorem poll_undoes_encoding (values : FrameValues) (filler : Bytes)
    (digits : ∀ char ∈ filler, Hex.isDigit char = true)
    (covers : values.state.minimumInfo ≤ filler.length) (fits : filler.length ≤ 110)
    (ups : SimulatedUps) (reads : ups.readFails = false) (writes : ups.writeFails = false)
    (room : ups.written.length + 18 ≤ 1024) (rest : List Bytes)
    (replies : ups.replies = SimulatedUps.reply 0x00 (values.info filler) :: rest)
    (config : Config) (sink : σ) :
    let session : Session (SerialLink SimulatedUps) σ 128 :=
      ⟨⟨⟨ups⟩, config, values.state⟩, sink⟩
    let reply : Reply := ⟨SimulatedUps.reply 0x00 (values.info filler)⟩
    (Line.fresh session.driver.link 128).Accepts config values.state.command []
        values.state.minimumInfo reply ∧
      values.DecodedFrom reply ∧
      session.Refreshed (session.perform .poll).1 (session.perform .poll).2 ∧
      (∃ before, (before = [] ∨ ∃ tokens, before = SinkEvent.replaceStatus tokens) ∧
        (session.perform .poll).1.events = before ++ values.publications ++ [.markFresh]) ∧
      (values.published.map Prod.fst).Nodup := by
  intro session reply
  have length_info := FrameValues.length_info covers
  have decoded := FrameValues.decodedFrom_reply covers 0x00
  have accepts : (Line.fresh session.driver.link 128).Accepts config values.state.command []
      values.state.minimumInfo reply := by
    apply SimulatedUps.accepts_reply reads writes replies
    · show 0 + 18 ≤ Frame.requestCapacity
      decide
    · exact room
    · exact values.isDigit_info digits
    · rw [length_info]
      omega
    · rw [length_info]
      omega
    · rw [length_info]
      exact covers
  obtain ⟨report, before, made, status, told⟩ :=
    FrameValues.report_of_decodedFrom decoded (TelemetrySink.hasStatus sink)
  have read : session.driver.Reads (TelemetrySink.hasStatus session.sink) report :=
    ⟨reply, accepts, made⟩
  obtain ⟨link, performed⟩ := perform_poll_of_reads read
  refine ⟨accepts, decoded, refreshed_of_reads read, ⟨before, status, ?_⟩, values.nodup_published⟩
  rw [performed, ← told]

/-- What the host is told of a UPS for 230 V at 50 Hz with both limits of the bypass on, of what it
measures, and of its battery, which runs down. INFO is full of other digits, and a byte was left
unread. -/
theorem poll_undoes_encoding_of_each_frame :
    let parameters := FrameValues.parameters 230 50 1 1 2
    let analog := FrameValues.analog
      ⟨⟨0x00⟩, 22987, 23004, 345, 5407, 4998, 5001, 72, 80, 150⟩
    let onOff := FrameValues.onOff 0x00 0x01 0xE2 0xE3 0xE1
    let filler : Bytes := List.replicate 106 0x46
    let ups (values : FrameValues) : SimulatedUps :=
      { unread := [0x7E], replies := [SimulatedUps.reply 0x00 (values.info filler)] }
    let session (values : FrameValues) : Session (SerialLink SimulatedUps) Recorder 128 :=
      ⟨⟨⟨ups values⟩, .standard, values.state⟩, .empty⟩
    let Told (values : FrameValues) (publications : List SinkEvent) : Prop :=
      ∃ before, (before = [] ∨ ∃ tokens, before = SinkEvent.replaceStatus tokens) ∧
        ((session values).perform .poll).1.events = before ++ publications ++ [.markFresh]
    (∀ char ∈ filler, Hex.isDigit char = true) ∧ filler.length ≤ 110 ∧
      (∀ values ∈ [parameters, analog, onOff], values.state.minimumInfo ≤ filler.length ∧
        (ups values).readFails = false ∧ (ups values).writeFails = false ∧
        (ups values).written.length + 18 ≤ 1024) ∧
      Told parameters [.set "output.voltage.nominal" "230", .set "output.frequency.nominal" "50",
        .set "input.transfer.bypass.high" "264.500000", .set "input.transfer.bypass.low" "120",
        .set "ups.test.interval" "648000"] ∧
      Told analog [.set "input.voltage" "229.87", .set "output.voltage" "230.04",
        .set "output.current" "3.45", .set "battery.voltage" "54.07",
        .set "output.frequency" "49.98", .set "input.frequency" "50.01",
        .set "ups.realpower" "720", .set "ups.power" "800",
        .set "battery.runtime.low" "90.00"] ∧
      Told onOff [.set "battery.charger.status" "discharging", .set "ups.test.result" "Idle"] ∧
      OnOffStatus.ofReply ⟨SimulatedUps.reply 0x00 (onOff.info filler)⟩ = .ok {
        flag := ⟨0x00⟩, path := some .onBattery, charger := some .discharging
        batteryTest := some .idle } := by
  intro parameters analog onOff filler ups session Told
  have digits : ∀ char ∈ filler, Hex.isDigit char = true := by
    intro char mem
    obtain ⟨-, rfl⟩ := List.mem_replicate.1 mem
    decide
  have performed (values : FrameValues) (covers : values.state.minimumInfo ≤ filler.length) :=
    poll_undoes_encoding values filler digits covers (by decide) (ups values) rfl rfl
      (show 0 + 18 ≤ 1024 by decide) [] rfl .standard Recorder.empty
  have told (values : FrameValues) (covers : values.state.minimumInfo ≤ filler.length) :
      Told values values.publications :=
    (performed values covers).2.2.2.1
  refine ⟨digits, by decide, by decide, ?_, ?_, ?_, ?_⟩
  · convert told parameters (by decide)
    decide
  · convert told analog (by decide)
    decide
  · exact told onOff (by decide)
  · exact (performed onOff (by decide)).2.1

end Session

end UpsTelemetry
