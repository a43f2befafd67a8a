/-!
# Published variables

The variables under which the host finds what the driver read. `all` lists them once each.
-/

namespace UpsTelemetry

/-- A variable that the driver publishes. -/
inductive Metric
  | manufacturer
  | model
  | identity
  | inputVoltage
  | outputVoltage
  | outputCurrent
  | batteryVoltage
  | outputFrequency
  | inputFrequency
  | realPower
  | apparentPower
  | lowRuntime
  | nominalVoltage
  | nominalFrequency
  /-- Published only while the UPS reports the limit as enabled. -/
  | bypassHigh
  /-- Published only while the UPS reports the limit as enabled. -/
  | bypassLow
  | testInterval
  | charger
  | testResult
deriving DecidableEq, Repr

namespace Metric

/-- The name the host knows a variable by. -/
def name : Metric → String
  | manufacturer => "ups.mfr"
  | model => "ups.model"
  | identity => "ups.id"
  | inputVoltage => "input.voltage"
  | outputVoltage => "output.voltage"
  | outputCurrent => "output.current"
  | batteryVoltage => "battery.voltage"
  | outputFrequency => "output.frequency"
  | inputFrequency => "input.frequency"
  | realPower => "ups.realpower"
  | apparentPower => "ups.power"
  | lowRuntime => "battery.runtime.low"
  | nominalVoltage => "output.voltage.nominal"
  | nominalFrequency => "output.frequency.nominal"
  | bypassHigh => "input.transfer.bypass.high"
  | bypassLow => "input.transfer.bypass.low"
  | testInterval => "ups.test.interval"
  | charger => "battery.charger.status"
  | testResult => "ups.test.result"

/-- Every variable. -/
def all : List Metric :=
  [manufacturer, model, identity, inputVoltage, outputVoltage, outputCurrent, batteryVoltage,
    outputFrequency, inputFrequency, realPower, apparentPower, lowRuntime, nominalVoltage,
    nominalFrequency, bypassHigh, bypassLow, testInterval, charger, testResult]

end Metric

end UpsTelemetry
