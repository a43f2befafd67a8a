/-!
# Fixed-point scales

Every measurement comes as a 16-bit count. A scale says what a count stands for: divide by one
number, multiply by another.

* `whole` works in integers and truncates. It multiplies first, so nothing is lost before the one
  division.
* `single` works in single precision, divides first, and rounds after each of the two steps.

A scale with divisor zero has no whole values (`whole?`); in single precision the quotient is
infinite or not a number.
-/

namespace UpsTelemetry

/-- What a count stands for. -/
structure Scaling where
  /-- Counts per unit. -/
  divisor : UInt32
  /-- Units of the quantity per unit counted. -/
  multiplier : UInt32
deriving DecidableEq, Repr

/-- Why a scale has no whole value. -/
inductive ScalingError
  | zeroDivisor
deriving DecidableEq, Repr

/-- The wording of the fault. -/
def ScalingError.message : ScalingError → String
  | zeroDivisor => "attempt to divide by zero"

namespace Scaling

/-! ## The scales of the UPS -/

/-- The count itself. -/
def identity : Scaling := ⟨1, 1⟩

/-- Hundredths: volts, amperes and hertz. -/
def hundredths : Scaling := ⟨100, 1⟩

/-- Tens: watts and volt-amperes. -/
def tens : Scaling := ⟨1, 10⟩

/-- Hundredths of an hour, in minutes. -/
def backupMinutes : Scaling := ⟨100, 60⟩

/-- Spans of three months, in seconds. -/
def testSeconds : Scaling := ⟨1, 3 * 108000⟩

/-! ## Conversion -/

/-- The scaled count, truncated. -/
def whole (scale : Scaling) (count : UInt16) : Nat :=
  count.toNat * scale.multiplier.toNat / scale.divisor.toNat

/-- The scaled count, truncated, if the scale has a divisor. -/
def whole? (scale : Scaling) (count : UInt16) : Except ScalingError Nat :=
  if scale.divisor = 0 then .error .zeroDivisor else .ok (scale.whole count)

/-- The scaled count in single precision. -/
def single (scale : Scaling) (count : UInt16) : Float32 :=
  count.toFloat32 / scale.divisor.toFloat32 * scale.multiplier.toFloat32

end Scaling

/-! ## Limits of the bypass -/

/-- The upper limit of the bypass, as a share of the nominal voltage: always 115 %. -/
def bypassHighRatio : Float32 := 1.15

/-- The lower limit of the bypass, in volts: always the same. -/
def bypassLowVolts : Nat := 120

end UpsTelemetry
