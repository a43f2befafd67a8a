import UpsTelemetry.Proofs.Text.Single
import UpsTelemetry.Telemetry.Scaling

/-!
# What counts are shown as

A scale works in single precision, which has room for no more than the first 24 binary digits of a
quotient. Nothing of that is seen in the text: a count of hundredths, which single precision cannot
divide by a hundred without a rest, is shown with its own digits and a point before the last two.

* `Scaling.ofSingle_single`: so it is with every scale by a power of ten, up to four millions.
* `Scaling.Shown`, `Scaling.shown`: what the scales of the UPS show, with their numbers written out.
* `highLimit`: the upper limit of the bypass is shown as single precision has it.
  `ofSingle_bypassHigh`: its text. `highLimit_near`: it is 115 % up to a hundredth of a volt.
-/

namespace UpsTelemetry

open Decimal (roundDiv singleUnits pointed)
open Single (Holds Near significant)

/-! ## Scales by powers of ten -/

namespace Scaling

/-- A number is found again after two roundings to 24 binary digits, if it is not too large. -/
theorem roundDiv_of_near_near {first second number : Nat} (near : Near first second)
    (near' : Near second (number * 2 ^ 149)) (small : number ≤ 4000000) :
    roundDiv first (2 ^ 149) = number := by
  obtain ⟨le, ge⟩ := near
  obtain ⟨le', ge'⟩ := near'
  have bounded : number * 2 ^ 149 ≤ 4000000 * 2 ^ 149 := Nat.mul_le_mul_right _ small
  apply Decimal.roundDiv_of_near (Nat.two_pow_pos 149)
  · omega
  · omega

/-- What is divided by a power of ten and multiplied is shown exactly with as many places. -/
theorem ofSingle_single {scale : Scaling} {places : Nat} (count : UInt16)
    (tens : scale.divisor.toNat = 10 ^ (places + 1)) (few : places ≤ 6)
    (positive : 0 < scale.multiplier.toNat) (whole : scale.multiplier.toNat < 2 ^ 24)
    (small : count.toNat * scale.multiplier.toNat ≤ 4000000) :
    Decimal.ofSingle (places + 1) (scale.single count) =
      pointed (places + 1) (count.toNat * scale.multiplier.toNat) := by
  have unit : 0 < 2 ^ 149 := Nat.two_pow_pos 149
  have power : 0 < 10 ^ (places + 1) := Nat.pow_pos (by decide)
  have limit : 10 ^ (places + 1) < 2 ^ 24 :=
    Nat.lt_of_le_of_lt (Nat.pow_le_pow_right (by decide) (Nat.succ_le_succ few)) (by decide)
  obtain ⟨_, _, divisor, least, most, divisor_eq⟩ := Single.exists_holds_ofNat (tens ▸ power)
    (tens ▸ limit) (Eq.refl scale.divisor.toFloat32.toModel)
  obtain ⟨_, _, factor, least', most', factor_eq⟩ := Single.exists_holds_ofNat positive whole
    (Eq.refl scale.multiplier.toFloat32.toModel)
  rw [Decimal.ofSingle_eq_pointed]
  congr 1
  rcases Nat.eq_zero_or_pos count.toNat with none | counted
  · obtain rfl : count = 0 := UInt16.toNat_inj.1 none
    rw [single, Single.singleUnits_zero divisor factor, none, Nat.zero_mul, Nat.zero_mul]
    decide
  obtain ⟨_, _, dividend, least'', most'', dividend_eq⟩ := Single.exists_holds_ofNat counted
    (Nat.lt_trans count.toNat_lt (by decide)) (Eq.refl count.toFloat32.toModel)
  obtain ⟨near, _, _, quotient, low, high⟩ := dividend.div divisor (by omega) (by omega)
  have near' := quotient.near_mul factor (by omega) (by omega)
  -- Both bounds are brought to the same unit, that of the text.
  rw [dividend_eq, divisor_eq, tens, ← Nat.mul_assoc, Single.near_mul_right_iff unit,
    ← Single.near_mul_right_iff positive, Nat.mul_right_comm _ _ scale.multiplier.toNat,
    Nat.mul_right_comm _ _ scale.multiplier.toNat] at near
  rw [factor_eq, ← Nat.mul_assoc, Single.near_mul_right_iff unit,
    ← Single.near_mul_right_iff power] at near'
  exact roundDiv_of_near_near near' near small

/-- What the scales of the UPS show for a count. -/
structure Shown (count : UInt16) : Prop where
  /-- The count itself is left as it is. -/
  identity : identity.whole count = count.toNat
  /-- Tens are whole numbers. -/
  tens : tens.whole count = count.toNat * 10
  /-- So are spans of three months, in seconds. -/
  testSeconds : testSeconds.whole count = count.toNat * 324000
  /-- Hundredths are cut off where whole volts are compared. -/
  cutOff : hundredths.whole count = count.toNat / 100
  /-- Elsewhere they are shown with two places. -/
  hundredths : Decimal.ofSingle 2 (hundredths.single count) = pointed 2 count.toNat
  /-- Hundredths of an hour are shown in minutes, which are hundredths of sixty times as many. -/
  backupMinutes : Decimal.ofSingle 2 (backupMinutes.single count) = pointed 2 (count.toNat * 60)

/-- **What a count stands for** is shown without any error, in each of the scales of the UPS. -/
theorem shown (count : UInt16) : Shown count := by
  have bound := count.toNat_lt
  have one (number : Nat) : number * (1 : UInt32).toNat = number := Nat.mul_one number
  constructor
  · exact (Nat.div_one _).trans (one _)
  · exact Nat.div_one _
  · exact Nat.div_one _
  · exact congrArg (· / 100) (one _)
  · refine (@ofSingle_single Scaling.hundredths 1 count rfl (by decide) (by decide) (by decide)
      ?_).trans (congrArg (pointed 2) (one _))
    show count.toNat * 1 ≤ 4000000
    omega
  · apply @ofSingle_single Scaling.backupMinutes 1 count rfl (by decide) (by decide) (by decide)
    show count.toNat * 60 ≤ 4000000
    omega

end Scaling

/-! ## The upper limit of the bypass -/

/-- The upper limit of the bypass in millionths of a volt: 115 % of the nominal voltage with the
first 24 binary digits of the share, which are `0x933333`, and then of the product. -/
def highLimit (nominal : Nat) : Nat :=
  roundDiv (significant (nominal * 0x933333) * 10 ^ 6) (2 ^ 23)

/-- The share of the nominal voltage, which is not quite 115 %. -/
theorem holds_bypassHighRatio : Holds bypassHighRatio 0x933333 126 :=
  ⟨by decide, by decide, by decide, by decide⟩

/-- The limit is shown in millionths of a volt. -/
theorem ofSingle_bypassHigh (nominal : UInt16) :
    Decimal.ofSingle 6 (nominal.toFloat32 * bypassHighRatio) =
      pointed 6 (highLimit nominal.toNat) := by
  rw [Decimal.ofSingle_eq_pointed 5]
  refine congrArg (pointed 6) ?_
  rcases Nat.eq_zero_or_pos nominal.toNat with none | counted
  · obtain rfl : nominal = 0 := UInt16.toNat_inj.1 none
    decide +kernel
  obtain ⟨mantissa, shift, volts, least, most, volts_eq⟩ := Single.exists_holds_ofNat counted
    (Nat.lt_trans nominal.toNat_lt (by decide)) (Eq.refl nominal.toFloat32.toModel)
  have product := volts.mul holds_bypassHighRatio (by omega) (by omega)
  have long : 2 ^ 23 ≤ nominal.toNat * 0x933333 := by omega
  have longer := Nat.le_trans long (Nat.le_mul_of_pos_right _ (Nat.two_pow_pos 126))
  rw [volts_eq, holds_bypassHighRatio.singleUnits_eq, Nat.mul_mul_mul_comm, Nat.mul_comm (2 ^ 149),
    ← Nat.mul_assoc, Single.significant_mul_two_pow longer, Single.significant_mul_two_pow long]
    at product
  rw [Nat.mul_right_cancel (Nat.two_pow_pos 149) product, Nat.mul_right_comm]
  exact Decimal.roundDiv_mul_right _ (2 ^ 23) (Nat.two_pow_pos 126)

/-- It is 115 % of the nominal voltage, up to a hundredth of a volt. -/
theorem highLimit_near {nominal : Nat} (word : nominal < 2 ^ 16) :
    highLimit nominal ≤ nominal * 1150000 + 10000 ∧
      nominal * 1150000 ≤ highLimit nominal + 10000 := by
  rcases Nat.eq_zero_or_pos nominal with rfl | counted
  · decide +kernel
  obtain ⟨le, ge⟩ := Single.near_significant (by omega : 2 ^ 23 ≤ nominal * 0x933333)
  obtain ⟨below, above, -⟩ := Decimal.nearest_roundDiv (significant (nominal * 0x933333) * 10 ^ 6)
    (Nat.two_pow_pos 23)
  unfold highLimit
  constructor
  · omega
  · omega

end UpsTelemetry
