import UpsTelemetry.Driver.Basic
import UpsTelemetry.Proofs.Driver.Exchange
import UpsTelemetry.Proofs.Driver.Retry
import UpsTelemetry.Proofs.Telemetry.Fields

/-!
# Commands and identification as attempts

Both are tried up to a number of times, on one line whose buffer all attempts share. An attempt at a
command is good if its reply is accepted (`commandOnce`, `acknowledges`), and one at identification
if enough bytes came that are intact as far as anybody asks (`identifyOnce`, `identifies`). If the
attempt that decides is not good, the operation fails, and of the driver only the link has changed.
-/

namespace UpsTelemetry

/-- The model is read from one field. -/
theorem VendorInfo.readsFields_model : ReadsFields model [⟨modelAt, modelWidth⟩] :=
  (ReadsFields.info ⟨modelAt, modelWidth⟩).map (Padded.text (modelWidth / 2))

/-- The model name of a reply that is long enough can be read. -/
theorem VendorInfo.exists_model {reply : Reply} (long : minimumLength ≤ reply.raw.length) :
    ∃ name, model reply = .ok name := by
  apply readsFields_model.ok_of_fits
  intro field mem
  obtain rfl := List.mem_singleton.1 mem
  exact Nat.le_trans (by decide) long

variable {τ ε : Type} {size : Nat} [Link τ ε]

namespace Driver

/-- One attempt at a command. -/
def commandOnce (config : Config) (command : InstantCommand) (line : Line τ size) :
    Except (DriverError ε) Reply × Line τ size :=
  line.request config .remoteControl command.payload acknowledgementInfo

/-- Any reply to a command is good that is accepted at all. -/
def acknowledges : Reply → Bool :=
  fun _ => true

/-- Whether so many bytes in reply to identification are enough. -/
def identifies (got : Nat) : Bool :=
  decide (VendorInfo.minimumLength ≤ got)

/-- An attempt at a command is good if its exchange brings a reply that is accepted. -/
theorem comesOutGood_commandOnce_iff {config : Config} {command : InstantCommand}
    {line : Line τ size} :
    ComesOutGood (commandOnce config command) acknowledges line ↔
      ∃ reply, line.Accepts config .remoteControl command.payload acknowledgementInfo reply := by
  constructor
  · rintro ⟨reply, accepted, -⟩
    exact ⟨reply, Line.request_eq_ok_iff.1 accepted⟩
  · rintro ⟨reply, accepts⟩
    exact ⟨reply, Line.request_eq_ok_iff.2 accepts, rfl⟩

/-- An attempt at identification leaves the line as its exchange does. -/
theorem identifyOnce_line (config : Config) (line : Line τ size) :
    (identifyOnce config line).2 = (line.exchange config .readVendorInfo []).2 := by
  unfold identifyOnce
  obtain ⟨outcome, line'⟩ := line.exchange config .readVendorInfo []
  cases outcome with
  | error error => rfl
  | ok got =>
    dsimp only
    split <;> rfl

/-- The bytes that an attempt at identification reports came from its exchange, and with strict
settings they are intact if there are enough. -/
theorem exchange_of_identifyOnce {config : Config} {line line' : Line τ size} {got : Nat}
    (identified : identifyOnce config line = ((.ok got : Except (DriverError ε) Nat), line')) :
    line.exchange config .readVendorInfo [] = (.ok got, line') ∧
      (config.strict = true → VendorInfo.minimumLength ≤ got →
        (line'.reply got).verify = .ok ()) := by
  unfold identifyOnce at identified
  generalize line.exchange config .readVendorInfo [] = exchanged at identified ⊢
  obtain ⟨outcome, after⟩ := exchanged
  cases outcome with
  | error error => cases identified
  | ok count =>
    dsimp only at identified
    split at identified
    · cases verdict :
        (checked config.strict (after.reply count) : Except (DriverError ε) Reply) with
      | error error =>
        rw [verdict] at identified
        cases identified
      | ok reply =>
        rw [verdict] at identified
        cases identified
        exact ⟨rfl, fun strict _ => (checked_eq_ok_iff.1 verdict).2 strict⟩
    · next short =>
      cases identified
      exact ⟨rfl, fun _ long => absurd long short⟩

/-- All attempts at identification, one after the other. -/
def identifyTries (driver : Driver τ size) : Except (DriverError ε) Nat × Line τ size :=
  retry driver.config.attempts (identifyOnce driver.config) identifies (Line.fresh driver.link size)

/-- All attempts at a command, one after the other. -/
def commandTries (driver : Driver τ size) (command : InstantCommand) :
    Except (DriverError ε) Reply × Line τ size :=
  retry driver.config.attempts (commandOnce driver.config command) acknowledges
    (Line.fresh driver.link size)

/-- Identification comes to what its attempts come to, if the host can be told of it. -/
theorem identify_eq (driver : Driver τ size) :
    driver.identify =
      match driver.identifyTries.1.bind (identityOf driver.config driver.identifyTries.2) with
      | .error error => (.error error, { driver with link := driver.identifyTries.2.link })
      | .ok events =>
        (.ok events, { driver with link := driver.identifyTries.2.link, state := .initial }) := rfl

/-- Sending a command comes to what its attempts come to. -/
theorem sendCommand_eq (driver : Driver τ size) (command : InstantCommand) :
    driver.sendCommand command =
      match (driver.commandTries command).1 with
      | .error error => (.error error, { driver with link := (driver.commandTries command).2.link })
      | .ok _ => (.ok (),
          { driver with link := (driver.commandTries command).2.link, state := .initial }) := rfl

/-- What identification comes to is read out of the reply that its attempts end with. -/
theorem identify_fst (driver : Driver τ size) :
    driver.identify.1 =
      driver.identifyTries.1.bind (identityOf driver.config driver.identifyTries.2) := by
  rw [identify_eq]
  split <;> simp only [*]

/-- It leaves the link where its attempts leave it. -/
theorem identify_link (driver : Driver τ size) :
    driver.identify.2.link = driver.identifyTries.2.link := by
  rw [identify_eq]
  split <;> rfl

/-- It keeps the settings. -/
theorem identify_config (driver : Driver τ size) :
    driver.identify.2.config = driver.config := by
  rw [identify_eq]
  split <;> rfl

/-- A command is sent if one of the attempts at it succeeds. -/
theorem sendCommand_fst (driver : Driver τ size) (command : InstantCommand) :
    (driver.sendCommand command).1 = (driver.commandTries command).1.map fun _ => () := by
  rw [sendCommand_eq]
  split <;> simp only [*] <;> rfl

/-- It leaves the link where its attempts leave it. -/
theorem sendCommand_link (driver : Driver τ size) (command : InstantCommand) :
    (driver.sendCommand command).2.link = (driver.commandTries command).2.link := by
  rw [sendCommand_eq]
  split <;> rfl

/-- It keeps the settings. -/
theorem sendCommand_config (driver : Driver τ size) (command : InstantCommand) :
    (driver.sendCommand command).2.config = driver.config := by
  rw [sendCommand_eq]
  split <;> rfl

variable {driver : Driver τ size} {count : Nat}

/-- Sending a command comes to what the attempt that decides comes to. -/
theorem sendCommand_of_decides {command : InstantCommand}
    (decides : Decides driver.config.attempts (commandOnce driver.config command) acknowledges
      (Line.fresh driver.link size) count)
    {outcome : Except (DriverError ε) Reply} {line' : Line τ size} :
    commandOnce driver.config command
        (stateBefore (commandOnce driver.config command) count (Line.fresh driver.link size)) =
      (outcome, line') →
    driver.sendCommand command =
      match outcome with
      | .error error => (.error error, { driver with link := line'.link })
      | .ok _ => (.ok (), { driver with link := line'.link, state := .initial }) := by
  intro comes
  have tries : driver.commandTries command = (outcome, line') := by
    rw [← comes]
    exact retry_of_decides decides
  rw [sendCommand_eq, tries]

/-- Identification comes to what the attempt that decides comes to, if that is enough. -/
theorem identify_of_decides
    (decides : Decides driver.config.attempts (identifyOnce driver.config) identifies
      (Line.fresh driver.link size) count)
    {outcome : Except (DriverError ε) Nat} {line' : Line τ size} :
    identifyOnce driver.config
        (stateBefore (identifyOnce driver.config) count (Line.fresh driver.link size)) =
      (outcome, line') →
    driver.identify =
      match outcome.bind (identityOf driver.config line') with
      | .error error => (.error error, { driver with link := line'.link })
      | .ok events => (.ok events, { driver with link := line'.link, state := .initial }) := by
  intro comes
  have tries : driver.identifyTries = (outcome, line') := by
    rw [← comes]
    exact retry_of_decides decides
  rw [identify_eq, tries]

/-- With too few bytes a UPS is not identified. -/
theorem identify_of_short
    (decides : Decides driver.config.attempts (identifyOnce driver.config) identifies
      (Line.fresh driver.link size) count) {got : Nat} {line' : Line τ size}
    (comes : identifyOnce driver.config
        (stateBefore (identifyOnce driver.config) count (Line.fresh driver.link size)) =
      ((.ok got : Except (DriverError ε) Nat), line')) (short : got < VendorInfo.minimumLength) :
    driver.identify =
      (.error (.insufficientIdentification got), { driver with link := line'.link }) := by
  have refused : identityOf driver.config line' got =
      (.error (.insufficientIdentification got) : Except (DriverError ε) _) := if_pos short
  rw [identify_of_decides decides comes]
  simp only [Except.bind, refused]

/-- With enough of them it is, by the model name among them. -/
theorem identify_of_long
    (decides : Decides driver.config.attempts (identifyOnce driver.config) identifies
      (Line.fresh driver.link size) count) {got : Nat} {line' : Line τ size} {model : String}
    (comes : identifyOnce driver.config
        (stateBefore (identifyOnce driver.config) count (Line.fresh driver.link size)) =
      ((.ok got : Except (DriverError ε) Nat), line')) (long : VendorInfo.minimumLength ≤ got)
    (read : VendorInfo.model (line'.reply got) = .ok model) :
    driver.identify = (.ok (identityEvents model driver.config.address),
      { driver with link := line'.link, state := .initial }) := by
  have told : identityOf driver.config line' got =
      (.ok (identityEvents model driver.config.address) : Except (DriverError ε) _) := by
    unfold identityOf
    rw [if_neg (Nat.not_lt.2 long), read]
  rw [identify_of_decides decides comes]
  simp only [Except.bind, told]

/-- A command is not sent if the attempt that decides is not acknowledged. -/
theorem sendCommand_of_not_good {command : InstantCommand}
    (decides : Decides driver.config.attempts (commandOnce driver.config command) acknowledges
      (Line.fresh driver.link size) count)
    (fails : ¬ ComesOutGood (commandOnce driver.config command) acknowledges
      (stateBefore (commandOnce driver.config command) count (Line.fresh driver.link size))) :
    ∃ error link, driver.sendCommand command = (.error error, { driver with link }) := by
  cases comes : commandOnce driver.config command
      (stateBefore (commandOnce driver.config command) count (Line.fresh driver.link size)) with
  | mk outcome line' =>
    have sent := sendCommand_of_decides decides comes
    cases outcome with
    | error error => exact ⟨error, line'.link, sent⟩
    | ok reply => exact absurd ⟨reply, by rw [comes], rfl⟩ fails

/-- A UPS is not identified if the attempt that decides does not identify it. -/
theorem identify_of_not_good
    (decides : Decides driver.config.attempts (identifyOnce driver.config) identifies
      (Line.fresh driver.link size) count)
    (fails : ¬ ComesOutGood (identifyOnce driver.config) identifies
      (stateBefore (identifyOnce driver.config) count (Line.fresh driver.link size))) :
    ∃ error link, driver.identify = (.error error, { driver with link }) := by
  cases comes : identifyOnce driver.config
      (stateBefore (identifyOnce driver.config) count (Line.fresh driver.link size)) with
  | mk outcome line' =>
    cases outcome with
    | error error => exact ⟨error, line'.link, identify_of_decides decides comes⟩
    | ok got =>
      have short : got < VendorInfo.minimumLength := by
        by_contra long
        exact fails ⟨got, by rw [comes], decide_eq_true (Nat.not_lt.1 long)⟩
      exact ⟨_, line'.link, identify_of_short decides comes short⟩

end Driver

end UpsTelemetry
