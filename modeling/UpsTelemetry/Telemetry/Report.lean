import UpsTelemetry.Sink.Basic
import UpsTelemetry.Telemetry.Analog
import UpsTelemetry.Telemetry.OnOff
import UpsTelemetry.Telemetry.Parameters
import UpsTelemetry.Telemetry.Warnings
import UpsTelemetry.Text.Decimal

/-!
# From telemetry to reports

A report is what one successful poll step amounts to: the events for the host and the state to
poll next. Each telemetry record has one.

The report on analog measurements is the only one that depends on the host. If the committed
status contradicts the input voltage, a warning must have been missed: the status is corrected and
warnings are read next, whatever the flag says.

* `Report.ofReply`: the report that a reply gives rise to in each poll state. It fails exactly when
  the record cannot be read.
-/

namespace UpsTelemetry

/-- The outcome of a successful poll step. -/
structure Report where
  /-- What the host is told. -/
  events : List SinkEvent
  /-- The state to poll next. -/
  next : PollState
deriving DecidableEq, Repr

open SinkEvent (publish replaceStatus replaceAlarms)

/-! ## On/off status -/

/-- The report on an on/off status. An unknown power path clears the status rather than keep an old
one; an unknown state of charger or test leaves its variable as it is. -/
def OnOffStatus.report (status : OnOffStatus) : Report where
  events :=
    replaceStatus ((status.path.map PowerPath.tokens).getD []) ++
      (status.charger.map fun charger => publish .charger charger.text).toList ++
      (status.batteryTest.map fun test => publish .testResult test.text).toList
  next := status.flag.redirect .analog

/-! ## Analog measurements -/

namespace AnalogReading

/-- The status that must take the place of the committed one, given which tokens the latter has:
it must not say that the mains feed the load when there is no input voltage, nor that the battery
does when there is some. -/
def correctedStatus? (reading : AnalogReading) (hasStatus : String → Bool) :
    Option (List StatusToken) :=
  if reading.inputVolts = 0 then
    if hasStatus StatusToken.online.name then some [.onBattery] else none
  else if hasStatus StatusToken.onBattery.name then some [.online]
  else none

/-- The variables that the measurements are published under, in order. -/
def publications (reading : AnalogReading) : List SinkEvent :=
  let hundredths (count : UInt16) : String := Decimal.ofSingle 2 (Scaling.hundredths.single count)
  let tens (count : UInt16) : String := (Scaling.tens.whole count).repr
  [publish .inputVoltage (hundredths reading.inputVoltage),
    publish .outputVoltage (hundredths reading.outputVoltage),
    publish .outputCurrent (hundredths reading.outputCurrent),
    publish .batteryVoltage (hundredths reading.batteryVoltage),
    publish .outputFrequency (hundredths reading.outputFrequency),
    publish .inputFrequency (hundredths reading.inputFrequency),
    publish .realPower (tens reading.realPower),
    publish .apparentPower (tens reading.apparentPower),
    publish .lowRuntime (Decimal.ofSingle 2 (Scaling.backupMinutes.single reading.backupTime))]

/-- The report on the measurements, for a host with the given committed status. -/
def report (reading : AnalogReading) (hasStatus : String → Bool) : Report :=
  match reading.correctedStatus? hasStatus with
  | some tokens => ⟨replaceStatus tokens ++ reading.publications, .warning⟩
  | none => ⟨reading.publications, reading.flag.redirect .analog⟩

end AnalogReading

/-! ## Warnings -/

/-- The report on the active warnings. -/
def Warnings.report (active : List String) : Report :=
  ⟨replaceAlarms active, .onOff⟩

/-! ## System parameters -/

/-- The report on the system parameters. A limit of the bypass is published only if it is
enabled. -/
def SystemParameters.report (parameters : SystemParameters) : Report where
  events :=
    let high := parameters.nominalVoltage.toFloat32 * bypassHighRatio
    [publish .nominalVoltage parameters.nominalVoltage.toNat.repr,
      publish .nominalFrequency parameters.nominalFrequency.toNat.repr] ++
      (if parameters.bypassHighEnabled then [publish .bypassHigh (Decimal.ofSingle 6 high)]
        else []) ++
      (if parameters.bypassLowEnabled then [publish .bypassLow bypassLowVolts.repr] else []) ++
      [publish .testInterval (Scaling.testSeconds.whole parameters.testInterval).repr]
  next := .warning

/-! ## Reports on replies -/

/-- The report that a reply gives rise to in a poll state, for a host with the given committed
status. -/
def Report.ofReply (state : PollState) (hasStatus : String → Bool) (reply : Reply) :
    Except FrameError Report :=
  match state with
  | .onOff => (OnOffStatus.ofReply reply).map OnOffStatus.report
  | .analog => (AnalogReading.ofReply reply).map (·.report hasStatus)
  | .warning => (Warnings.ofReply reply).map Warnings.report
  | .parameters => (SystemParameters.ofReply reply).map SystemParameters.report

end UpsTelemetry
