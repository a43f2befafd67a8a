import Mathlib.Data.Nat.Bitwise
import UpsTelemetry.Proofs.Telemetry.Report

/-!
# Which state comes next

The definitions find the next state with masks and with the status that a report puts in the place
of the committed one. Here it is said by the bits of the data flag and by what the host knows.

* `FlagLeads`: where a data flag leads.
* `Contradicts`: a committed status that cannot be true with the measured input voltage.
* `Advance`: where a reply leads, one constructor for each way on; `Report.advance_of_ofReply`: this
  is where its report goes.
-/

namespace UpsTelemetry

/-! ## The data flag -/

/-- Where a data flag leads: a waiting warning comes before a change of status. -/
inductive FlagLeads (flag : DataFlag) : PollState → Prop
  /-- Bit 0 is set. -/
  | warning (pending : flag.byte.toNat.testBit 0 = true) : FlagLeads flag .warning
  /-- Bit 0 is not set, but bit 4 is. -/
  | onOff (idle : flag.byte.toNat.testBit 0 = false)
      (changed : flag.byte.toNat.testBit 4 = true) : FlagLeads flag .onOff
  /-- Neither bit is set. -/
  | analog (idle : flag.byte.toNat.testBit 0 = false)
      (unchanged : flag.byte.toNat.testBit 4 = false) : FlagLeads flag .analog

namespace DataFlag

/-- A mask of one bit tells whether that bit is set. -/
theorem and_ne_zero_eq_testBit {byte mask : UInt8} {bit : Nat} (single : mask.toNat = 2 ^ bit) :
    (byte &&& mask != 0) = byte.toNat.testBit bit := by
  have masked : (byte &&& mask).toNat = (byte.toNat.testBit bit).toNat * 2 ^ bit := by
    rw [UInt8.toNat_and, single, Nat.and_two_pow]
  rw [Bool.eq_iff_iff, bne_iff_ne, ne_eq, ← UInt8.toNat_inj, masked]
  cases byte.toNat.testBit bit <;> simp

/-- A waiting warning is bit 0 of the flag. -/
theorem warningPending_eq (flag : DataFlag) :
    flag.warningPending = flag.byte.toNat.testBit 0 :=
  and_ne_zero_eq_testBit rfl

/-- A change of the status is bit 4. -/
theorem onOffChanged_eq (flag : DataFlag) : flag.onOffChanged = flag.byte.toNat.testBit 4 :=
  and_ne_zero_eq_testBit rfl

/-- The cycle goes where the flag leads. -/
theorem flagLeads_redirect (flag : DataFlag) : FlagLeads flag (flag.redirect .analog) := by
  unfold redirect
  rw [warningPending_eq, onOffChanged_eq]
  by_cases pending : flag.byte.toNat.testBit 0 = true
  · rw [if_pos pending]
    exact .warning pending
  · have idle := Bool.eq_false_iff.2 pending
    rw [if_neg pending]
    by_cases changed : flag.byte.toNat.testBit 4 = true
    · rw [if_pos changed]
      exact .onOff idle changed
    · rw [if_neg changed]
      exact .analog idle (Bool.eq_false_iff.2 changed)

end DataFlag

/-! ## The committed status -/

namespace AnalogReading

/-- The committed status says that the mains feed the load when there is no input voltage, or that
the battery does when there is some. -/
def Contradicts (reading : AnalogReading) (hasStatus : String → Bool) : Prop :=
  (reading.inputVolts = 0 ∧ hasStatus "OL" = true) ∨
    (0 < reading.inputVolts ∧ hasStatus "OB" = true)

/-- The status is corrected exactly if it contradicts the input voltage. -/
theorem correctedStatus?_isSome_iff {reading : AnalogReading} {hasStatus : String → Bool} :
    (reading.correctedStatus? hasStatus).isSome = true ↔ reading.Contradicts hasStatus := by
  unfold correctedStatus? Contradicts StatusToken.name
  by_cases dead : reading.inputVolts = 0
  · rw [if_pos dead]
    by_cases online : hasStatus "OL" = true <;> simp [dead, online]
  · rw [if_neg dead]
    by_cases onBattery : hasStatus "OB" = true <;>
      simp [dead, onBattery, Nat.pos_of_ne_zero dead]

end AnalogReading

/-! ## Replies -/

/-- Where a reply leads, for a host with the given committed status. -/
inductive Advance (hasStatus : String → Bool) (reply : Reply) : PollState → PollState → Prop
  /-- Warnings are read after the system parameters. -/
  | parameters : Advance hasStatus reply .parameters .warning
  /-- The on/off status is read after the warnings. -/
  | warning : Advance hasStatus reply .warning .onOff
  /-- After the on/off status its data flag decides. -/
  | onOff {status : OnOffStatus} {next : PollState}
      (read : OnOffStatus.ofReply reply = .ok status) (leads : FlagLeads status.flag next) :
      Advance hasStatus reply .onOff next
  /-- Warnings are read after measurements that contradict the committed status. -/
  | missed {reading : AnalogReading} (read : AnalogReading.ofReply reply = .ok reading)
      (contradicts : reading.Contradicts hasStatus) : Advance hasStatus reply .analog .warning
  /-- After other measurements their data flag decides. -/
  | analog {reading : AnalogReading} {next : PollState}
      (read : AnalogReading.ofReply reply = .ok reading)
      (agrees : ¬ reading.Contradicts hasStatus) (leads : FlagLeads reading.flag next) :
      Advance hasStatus reply .analog next

/-- A report goes where its reply leads. -/
theorem Report.advance_of_ofReply {state : PollState} {hasStatus : String → Bool} {reply : Reply}
    {report : Report} (made : Report.ofReply state hasStatus reply = .ok report) :
    Advance hasStatus reply state report.next := by
  cases state with
  | onOff =>
    obtain ⟨status, read, rfl⟩ := map_eq_ok_iff.1 made
    exact .onOff read status.flag.flagLeads_redirect
  | analog =>
    obtain ⟨reading, read, rfl⟩ := map_eq_ok_iff.1 made
    have corrected : (reading.correctedStatus? hasStatus).isSome = true ↔
        reading.Contradicts hasStatus := AnalogReading.correctedStatus?_isSome_iff
    unfold AnalogReading.report
    cases found : reading.correctedStatus? hasStatus with
    | some tokens =>
      rw [found] at corrected
      exact .missed read (corrected.1 rfl)
    | none =>
      rw [found] at corrected
      refine .analog read (fun contradicts => ?_) reading.flag.flagLeads_redirect
      cases corrected.2 contradicts
  | warning =>
    obtain ⟨active, -, rfl⟩ := map_eq_ok_iff.1 made
    exact .warning
  | parameters =>
    obtain ⟨parameters, -, rfl⟩ := map_eq_ok_iff.1 made
    exact .parameters

/-- The system parameters are never read next. -/
theorem Advance.next_ne_parameters {hasStatus : String → Bool} {reply : Reply}
    {state next : PollState} (advance : Advance hasStatus reply state next) :
    next ≠ .parameters := by
  cases advance with
  | parameters => decide
  | warning => decide
  | onOff read leads => cases leads <;> decide
  | missed read contradicts => decide
  | analog read agrees leads => cases leads <;> decide

end UpsTelemetry
