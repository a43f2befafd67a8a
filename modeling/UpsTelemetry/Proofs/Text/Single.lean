import UpsTelemetry.Proofs.Text.Decimal

/-!
# Arithmetic in single precision

What is said here of singles is said of those that are positive and use all 24 binary digits of
their mantissa (`Holds`), and in whole numbers, of units of `2⁻¹⁴⁹`.

* `Follows`: what rounding has to know of a quotient. `Follows.roundedMantissa_eq`: it rounds to the
  nearest, and half way to the even one, as the shown decimal does.
* `exists_holds_ofNat`: a whole number of at most 24 binary digits is converted without loss.
* `significant`: the first 24 binary digits of a number. `Holds.mul`: a product has those of the
  exact one.
* `Near`: what is left of a number after such a rounding. `Holds.near_mul`, `Holds.div`: products
  and quotients are near to the exact ones.
-/

namespace UpsTelemetry.Single

open Float.Model (Format UnpackedFloat totalExponent)
open Float.Model.UnpackedFloat
open Decimal (roundDiv singleUnits)

/-! ## Words -/

section words

variable {mantissa shift : Nat}

/-- The exponent is in the eight bits above the mantissa. -/
theorem toNat_unpackExponent (bits : BitVec Format.binary32.numBits) :
    (unpackExponent bits).toNat = bits.toNat / 2 ^ 23 % 2 ^ 8 := by
  have cut := BitVec.extractLsb_toNat 30 23 bits
  rwa [Nat.shiftRight_eq_div_pow] at cut

/-- The mantissa is in the lowest 23 bits. -/
theorem toNat_unpackMantissa (bits : BitVec Format.binary32.numBits) :
    (unpackMantissa bits).toNat = bits.toNat % 2 ^ 23 := by
  have cut := BitVec.extractLsb_toNat 22 0 bits
  rwa [Nat.shiftRight_zero] at cut

/-- The sign is the highest bit. -/
theorem toNat_unpackSign (bits : BitVec Format.binary32.numBits) :
    (unpackSign bits).toNat = bits.toNat / 2 ^ 31 % 2 := by
  have cut := BitVec.extractLsb_toNat 31 31 bits
  rwa [Nat.shiftRight_eq_div_pow] at cut

/-- Bits put before others count for so much more. -/
theorem toNat_append {width width' : Nat} (high : BitVec width) (low : BitVec width') :
    (high ++ low).toNat = high.toNat * 2 ^ width' + low.toNat := by
  rw [BitVec.toNat_append, ← Nat.shiftLeft_add_eq_or_of_lt low.isLt, Nat.shiftLeft_eq]

/-- A word with an exponent in it is unpacked with the first digit of the mantissa added. -/
theorem unpack_of_toNat {word : BitVec Format.binary32.numBits}
    (bits : word.toNat = shift * 2 ^ 23 + mantissa) (le : 2 ^ 23 ≤ mantissa)
    (lt : mantissa < 2 ^ 24) (finite : shift < 254) :
    unpack .binary32 word =
      .finite .positive mantissa ((shift : Int) - 149) (Nat.lt_of_lt_of_le (by decide) le) := by
  have exponent : (unpackExponent word).toNat = shift + 1 := by
    rw [toNat_unpackExponent]
    omega
  have sign : unpackSign word = 0#1 := by
    apply BitVec.eq_of_toNat_eq
    rw [toNat_unpackSign]
    show _ = 0
    omega
  have whole : (1#1 ++ unpackMantissa word).toNat = mantissa := by
    rw [toNat_append, toNat_unpackMantissa]
    show 1 * 2 ^ 23 + _ = _
    omega
  have notLast : unpackExponent word ≠ -1#_ := by
    intro last
    rw [last] at exponent
    change 255 = _ at exponent
    omega
  have notFirst : unpackExponent word ≠ 0#_ := by
    intro first
    rw [first] at exponent
    cases exponent
  have unbiased : (((unpackExponent word).toNat : Int) - (127 + 23)) = (shift : Int) - 149 := by
    omega
  unfold unpack
  dsimp only
  rw [if_neg notLast, if_neg notFirst, UnpackedFloat.finite.injEq, sign]
  exact ⟨rfl, whole, unbiased⟩

/-- It is packed without that digit. -/
theorem toNat_pack (le : 2 ^ 23 ≤ mantissa) (lt : mantissa < 2 ^ 24) (finite : shift < 254)
    (positive : 0 < mantissa) :
    (pack .binary32 (.finite .positive mantissa ((shift : Int) - 149) positive)).toNat =
      shift * 2 ^ 23 + mantissa := by
  have log : mantissa.log2 + 1 = Format.binary32.mantissaBits :=
    congrArg (· + 1) ((Nat.log2_eq_iff (Nat.ne_of_gt positive)).2 ⟨le, lt⟩)
  have biased : ((shift : Int) - 149 + Format.binary32.exponentBias +
      Format.binary32.mantissaBitsWithoutImplicit).toNat = shift + 1 := by
    show ((shift : Int) - 149 + (127 : Nat) + (23 : Nat)).toNat = _
    omega
  have fits : ¬ 2 ^ Format.binary32.exponentBits ≤ shift + 1 + 1 := by
    show ¬ 256 ≤ _
    omega
  unfold pack
  dsimp only
  rw [biased, if_neg fits, if_pos log, packComponents, toNat_append, toNat_append]
  show (0 * 2 ^ 8 + (shift + 1) % 2 ^ 8) * 2 ^ 23 + mantissa % 2 ^ 23 = _
  omega

end words

/-! ## Positive singles -/

/-- A single is `mantissa * 2 ^ shift` units of `2⁻¹⁴⁹`, and the mantissa has 24 binary digits. -/
structure Holds (value : Float32) (mantissa shift : Nat) : Prop where
  /-- The mantissa and its first digit, which is left out, make one word with the shift. -/
  bits_eq : value.toBits.toNat = shift * 2 ^ 23 + mantissa
  /-- The mantissa has no fewer digits. -/
  le : 2 ^ 23 ≤ mantissa
  /-- The mantissa has no more digits. -/
  lt : mantissa < 2 ^ 24
  /-- The word stands for a number. -/
  finite : shift < 254

section holds

variable {value : Float32} {mantissa shift : Nat}

/-- The units are read off the word. -/
theorem Holds.singleUnits_eq (holds : Holds value mantissa shift) :
    singleUnits value = mantissa * 2 ^ shift := by
  obtain ⟨bits, le, lt, finite⟩ := holds
  have exponent : value.toBits.toNat / 0x800000 % 0x100 = shift + 1 := by omega
  have fraction : 0x800000 + value.toBits.toNat % 0x800000 = mantissa := by omega
  simp only [singleUnits, exponent, fraction]
  rw [if_neg (Nat.succ_ne_zero shift), Nat.add_sub_cancel, Nat.shiftLeft_eq]

/-- What is held is unpacked. -/
theorem Holds.unpack_eq (holds : Holds value mantissa shift) :
    value.toModel.unpack =
      .finite .positive mantissa ((shift : Int) - 149) (Nat.lt_of_lt_of_le (by decide) holds.le) :=
  unpack_of_toNat holds.bits_eq holds.le holds.lt holds.finite

/-- What is packed with a whole mantissa is held. -/
theorem holds_of_pack {value : Float32} {exponent : Int} {positive : 0 < mantissa}
    (packed : value.toModel = .pack (.finite .positive mantissa exponent positive))
    (le : 2 ^ 23 ≤ mantissa) (lt : mantissa < 2 ^ 24) (finite : shift < 254)
    (same : exponent = (shift : Int) - 149) : Holds value mantissa shift := by
  subst same
  refine ⟨?_, le, lt, finite⟩
  show value.toModel.toBits.toNat = _
  rw [packed]
  exact toNat_pack le lt finite positive

end holds

/-! ## Rounding -/

/-- A mantissa with its two residual bits says of a quotient all that rounding asks for. -/
structure Follows (em : ExtendedMantissa) (num den : Nat) : Prop where
  /-- The mantissa is the quotient without the rest. -/
  mantissa_eq : em.mantissa = num / den
  /-- The rest is one half at least. -/
  roundBit_iff : em.roundBit = true ↔ den ≤ 2 * (num % den)
  /-- The rest is neither nothing nor one half. -/
  stickyBit_iff : em.stickyBit = true ↔ num % den ≠ 0 ∧ 2 * (num % den) ≠ den

namespace Follows

variable {em : ExtendedMantissa} {num den : Nat}

/-- It rounds to the nearest number, as a decimal is rounded. -/
theorem roundedMantissa_eq (follows : Follows em num den) (positive : 0 < den) :
    em.roundedMantissa = roundDiv num den := by
  obtain ⟨mantissa, roundBit, stickyBit⟩ := em
  obtain ⟨rfl, round, sticky⟩ := follows
  dsimp only at round sticky
  unfold roundDiv ExtendedMantissa.roundedMantissa
  generalize num / den = quotient
  generalize num % den = rest at round sticky ⊢
  cases roundBit <;> cases stickyBit <;>
    simp only [ExtendedMantissa.accuracy, Accuracy.roundToNearestEven, Bool.false_eq_true,
      false_iff, true_iff] at round sticky ⊢
  · rw [if_neg (by omega)]
  · rw [if_neg (by omega)]
  · split <;> omega
  · rw [if_pos (by omega)]

/-- Without its last binary digit it follows the quotient by twice as much. -/
theorem shiftRightOne (follows : Follows em num den) (positive : 0 < den) :
    Follows em.shiftRightOne num (den * 2) := by
  obtain ⟨mantissa, roundBit, stickyBit⟩ := em
  obtain ⟨rfl, round, sticky⟩ := follows
  dsimp only at round sticky
  have rest : num % (den * 2) = num % den + den * (num / den % 2) := Nat.mod_mul
  have small := Nat.mod_lt num positive
  refine ⟨Nat.div_div_eq_div_mul num den 2, ?_, ?_⟩
  · simp only [ExtendedMantissa.shiftRightOne, rest, bne_iff_ne]
    rcases Nat.mod_two_eq_zero_or_one (num / den) with even | odd
    · rw [even]
      omega
    · rw [odd]
      omega
  · simp only [ExtendedMantissa.shiftRightOne, rest, Bool.or_eq_true, round, sticky]
    rcases Nat.mod_two_eq_zero_or_one (num / den) with even | odd
    · rw [even]
      omega
    · rw [odd]
      omega

/-- So it does without as many digits as are dropped. -/
theorem shiftRight (follows : Follows em num den) (positive : 0 < den) (count : Nat) :
    Follows (em >>> count) num (den * 2 ^ count) := by
  induction count with
  | zero => rwa [Nat.pow_zero, Nat.mul_one]
  | succ count ih =>
    rw [Nat.pow_succ, ← Nat.mul_assoc]
    exact ih.shiftRightOne (Nat.mul_pos positive (Nat.two_pow_pos count))

/-- A mantissa that is exact is the quotient by one. -/
theorem exact (mantissa : Nat) :
    Follows (ExtendedMantissa.ofMantissaAndAccuracy mantissa .exact) mantissa 1 := by
  refine ⟨(Nat.div_one mantissa).symm, ?_, ?_⟩ <;>
    simp [ExtendedMantissa.ofMantissaAndAccuracy, Nat.mod_one]

/-- A mantissa with what is left of a quotient. -/
theorem ofFraction (num : Nat) {den : Nat} (positive : 0 < den) :
    Follows (ExtendedMantissa.ofMantissaAndAccuracy (num / den)
      (accuracyOfFraction (num % den) den)) num den := by
  unfold accuracyOfFraction
  split
  · next none =>
    refine ⟨rfl, ?_, ?_⟩ <;> simp [ExtendedMantissa.ofMantissaAndAccuracy, none]
    omega
  · next some =>
    cases order : compare (2 * (num % den)) den with
    | lt =>
      have := Nat.compare_eq_lt.1 order
      refine ⟨rfl, ?_, ?_⟩ <;> simp [ExtendedMantissa.ofMantissaAndAccuracy] <;> omega
    | eq =>
      have := Nat.compare_eq_eq.1 order
      refine ⟨rfl, ?_, ?_⟩ <;> simp [ExtendedMantissa.ofMantissaAndAccuracy] <;> omega
    | gt =>
      have := Nat.compare_eq_gt.1 order
      refine ⟨rfl, ?_, ?_⟩ <;> simp [ExtendedMantissa.ofMantissaAndAccuracy] <;> omega

end Follows

/-! ## Rounded results -/

section rounded

variable {mantissa digits num den : Nat} {accuracy : Accuracy} {exponent : Int}

/-- A number between two powers of two has so many binary digits. -/
theorem log2_eq_of_le (le : 2 ^ (23 + digits) ≤ mantissa)
    (lt : mantissa < 2 ^ (24 + digits)) : mantissa.log2 = 23 + digits := by
  have nonzero : mantissa ≠ 0 := Nat.ne_of_gt (Nat.lt_of_lt_of_le (Nat.two_pow_pos _) le)
  refine (Nat.log2_eq_iff nonzero).2 ⟨le, ?_⟩
  rwa [Nat.add_right_comm]

/-- As many digits are dropped as there are behind the first 24. -/
theorem targetExponent_eq (log : mantissa.log2 = 23 + digits)
    (lowest : -149 ≤ exponent + digits) :
    Format.binary32.targetExponent (totalExponent mantissa exponent) = exponent + digits := by
  show max (((mantissa.log2 : Nat) : Int) + 1 + exponent - (24 : Nat)) (3 - 2 ^ 7 - (24 : Nat)) = _
  rw [log]
  omega

/-- Dropping them is one shift. -/
theorem shiftToTargetExponent_eq (log : mantissa.log2 = 23 + digits)
    (lowest : -149 ≤ exponent + digits) (accuracy : Accuracy) :
    shiftToTargetExponent .binary32 mantissa exponent accuracy =
      (ExtendedMantissa.ofMantissaAndAccuracy mantissa accuracy >>> digits,
        exponent + digits) := by
  have amount : (exponent + digits - exponent).toNat = digits := by omega
  simp only [shiftToTargetExponent, targetExponent_eq log lowest, shiftToExponent, amount]

/-- The residual bits do not touch the mantissa. -/
theorem ofMantissaAndAccuracy_mantissa (mantissa : Nat) (accuracy : Accuracy) :
    (ExtendedMantissa.ofMantissaAndAccuracy mantissa accuracy).mantissa = mantissa := by
  cases accuracy with
  | exact => rfl
  | inexact order => cases order <;> rfl

/-- A rounded mantissa may have one digit too many, and then the last of them is a zero. -/
theorem exists_carry {rounded : Nat} (le : 2 ^ 23 ≤ rounded) (ge : rounded ≤ 2 ^ 24)
    (lowest : -149 ≤ exponent) :
    ∃ (em : ExtendedMantissa) (carry : Nat),
      shiftToTargetExponent .binary32 rounded exponent .exact = (em, exponent + carry) ∧
        em.mantissa * 2 ^ carry = rounded ∧ 2 ^ 23 ≤ em.mantissa ∧ em.mantissa < 2 ^ 24 ∧
          carry ≤ 1 := by
  rcases Nat.lt_or_eq_of_le ge with small | rfl
  · have log : rounded.log2 = 23 + 0 := log2_eq_of_le le small
    rw [shiftToTargetExponent_eq log (by omega)]
    exact ⟨_, 0, rfl, Nat.mul_one _, le, small, by decide⟩
  · have log : (2 ^ 24).log2 = 23 + 1 := Nat.log2_two_pow
    rw [shiftToTargetExponent_eq log (by omega)]
    exact ⟨_, 1, rfl, rfl, by decide, by decide, by decide⟩

/-- What is rounded is the nearest number of 24 binary digits. -/
theorem roundWithAccuracy_eq
    (follows : Follows (.ofMantissaAndAccuracy mantissa accuracy) num den) (positive : 0 < den)
    (log : mantissa.log2 = 23 + digits) (lowest : -149 ≤ exponent + digits) (sign : Sign) :
    ∃ rounded carry : Nat, ∃ nonzero : 0 < rounded,
      roundWithAccuracy .binary32 sign mantissa exponent accuracy =
        .finite sign rounded (exponent + digits + carry) nonzero ∧
      rounded * 2 ^ carry = roundDiv num (den * 2 ^ digits) ∧
        2 ^ 23 ≤ rounded ∧ rounded < 2 ^ 24 ∧ carry ≤ 1 := by
  have unit : 0 < den * 2 ^ digits := Nat.mul_pos positive (Nat.two_pow_pos digits)
  have rounds := (follows.shiftRight positive digits).roundedMantissa_eq unit
  have whole : mantissa = num / den :=
    (ofMantissaAndAccuracy_mantissa mantissa accuracy).symm.trans follows.mantissa_eq
  have nonzero : mantissa ≠ 0 := by
    rintro rfl
    rw [Nat.log2_zero] at log
    omega
  obtain ⟨low, high⟩ := (Nat.log2_eq_iff nonzero).1 log
  have le : 2 ^ 23 ≤ roundDiv num (den * 2 ^ digits) := by
    apply Decimal.le_roundDiv unit
    calc 2 ^ 23 * (den * 2 ^ digits) = 2 ^ (23 + digits) * den := by
          rw [Nat.pow_add, Nat.mul_comm den, Nat.mul_assoc]
      _ ≤ num / den * den := Nat.mul_le_mul_right den (whole ▸ low)
      _ ≤ num := Nat.div_mul_le_self num den
  have ge : roundDiv num (den * 2 ^ digits) ≤ 2 ^ 24 := by
    apply Decimal.roundDiv_le unit
    have below : num < 2 ^ (23 + digits + 1) * den :=
      (Nat.div_lt_iff_lt_mul positive).1 (whole ▸ high)
    calc num ≤ 2 ^ (24 + digits) * den := by
          rw [Nat.add_right_comm] at below
          exact Nat.le_of_lt below
      _ = 2 ^ 24 * (den * 2 ^ digits) := by rw [Nat.pow_add, Nat.mul_comm den, Nat.mul_assoc]
  obtain ⟨em, carry, shifted, value, normal, small, limited⟩ := exists_carry le ge lowest
  have nonzero : em.mantissa ≠ 0 := by omega
  refine ⟨em.mantissa, carry, Nat.pos_of_ne_zero nonzero, ?_, value, normal, small, limited⟩
  unfold roundWithAccuracy
  rw [shiftToTargetExponent_eq log lowest]
  dsimp only
  rw [rounds, shifted]
  exact dif_neg nonzero

/-- What is packed rounded is held, with one place more at most. -/
theorem holds_of_rounded {value : Float32} (base : Nat) (packed : value.toModel =
      .pack (roundWithAccuracy .binary32 .positive mantissa exponent accuracy))
    (follows : Follows (.ofMantissaAndAccuracy mantissa accuracy) num den) (positive : 0 < den)
    (log : mantissa.log2 = 23 + digits) (place : exponent + digits = (base : Int) - 149)
    (room : base ≤ 252) :
    ∃ rounded shift, Holds value rounded shift ∧ base ≤ shift ∧ shift ≤ base + 1 ∧
      2 ^ 23 ≤ roundDiv num (den * 2 ^ digits) ∧
      singleUnits value = roundDiv num (den * 2 ^ digits) * 2 ^ base := by
  have lowest : -149 ≤ exponent + digits := by omega
  obtain ⟨rounded, carry, nonzero, result, value_eq, normal, small, limited⟩ :=
    roundWithAccuracy_eq follows positive log lowest .positive
  rw [result] at packed
  have holds : Holds value rounded (base + carry) :=
    holds_of_pack packed normal small (by omega) (by omega)
  refine ⟨rounded, base + carry, holds, by omega, by omega, ?_, ?_⟩
  · rw [← value_eq]
    exact Nat.le_trans normal (Nat.le_mul_of_pos_right _ (Nat.two_pow_pos carry))
  · rw [holds.singleUnits_eq, ← value_eq, Nat.pow_add, Nat.mul_assoc, Nat.mul_comm (2 ^ carry)]

end rounded

/-! ## Significant digits -/

/-- The first 24 binary digits of a number, rounded, and zeros behind them. -/
def significant (number : Nat) : Nat :=
  roundDiv number (2 ^ (number.log2 - 23)) * 2 ^ (number.log2 - 23)

/-- Zeros behind a number count as digits. -/
theorem log2_mul_two_pow {number : Nat} (nonzero : number ≠ 0) (places : Nat) :
    (number * 2 ^ places).log2 = number.log2 + places := by
  obtain ⟨low, high⟩ := (Nat.log2_eq_iff nonzero).1 rfl
  refine (Nat.log2_eq_iff (Nat.mul_ne_zero nonzero (Nat.ne_of_gt (Nat.two_pow_pos places)))).2
    ⟨?_, ?_⟩
  · rw [Nat.pow_add]
    exact Nat.mul_le_mul_right _ low
  · rw [Nat.add_right_comm, Nat.pow_add]
    exact Nat.mul_lt_mul_of_pos_right high (Nat.two_pow_pos places)

/-- Zeros behind a long number stay behind it. -/
theorem significant_mul_two_pow {number : Nat} (long : 2 ^ 23 ≤ number) (places : Nat) :
    significant (number * 2 ^ places) = significant number * 2 ^ places := by
  have nonzero : number ≠ 0 := by omega
  have log : 23 ≤ number.log2 := (Nat.le_log2 nonzero).2 long
  have unit : number.log2 + places - 23 = number.log2 - 23 + places := by omega
  rw [significant, significant, log2_mul_two_pow nonzero, unit, Nat.pow_add,
    Decimal.roundDiv_mul_right number _ (Nat.two_pow_pos places), Nat.mul_assoc]

/-- Two numbers differ by no more than one half in the 24th binary digit of the first. -/
structure Near (rounded exact : Nat) : Prop where
  /-- The first is not too large. -/
  le : 2 ^ 24 * rounded ≤ 2 ^ 24 * exact + rounded
  /-- The first is not too small. -/
  ge : 2 ^ 24 * exact ≤ 2 ^ 24 * rounded + rounded

/-- A rounded quotient of 24 binary digits, times its divisor, is near to what was divided. -/
theorem near_roundDiv (num : Nat) {den : Nat} (positive : 0 < den)
    (large : 2 ^ 23 ≤ roundDiv num den) : Near (roundDiv num den * den) num := by
  obtain ⟨below, above, -⟩ := Decimal.nearest_roundDiv num positive
  have digits := Nat.mul_le_mul_right den large
  exact ⟨by omega, by omega⟩

/-- Nearness is a matter of the ratio. -/
theorem near_mul_right_iff {rounded exact factor : Nat} (positive : 0 < factor) :
    Near (rounded * factor) (exact * factor) ↔ Near rounded exact := by
  have scale (first second third : Nat) :
      2 ^ 24 * (first * factor) ≤ 2 ^ 24 * (second * factor) + third * factor ↔
        2 ^ 24 * first ≤ 2 ^ 24 * second + third := by
    rw [← Nat.mul_assoc, ← Nat.mul_assoc, ← Nat.add_mul]
    exact Nat.mul_le_mul_right_iff positive
  constructor
  · rintro ⟨le, ge⟩
    exact ⟨(scale _ _ _).1 le, (scale _ _ _).1 ge⟩
  · rintro ⟨le, ge⟩
    exact ⟨(scale _ _ _).2 le, (scale _ _ _).2 ge⟩

/-- The first 24 binary digits of a long number are near to it. -/
theorem near_significant {number : Nat} (long : 2 ^ 23 ≤ number) :
    Near (significant number) number := by
  have nonzero : number ≠ 0 := by omega
  obtain ⟨low, -⟩ := (Nat.log2_eq_iff nonzero).1 rfl
  have log : 23 ≤ number.log2 := (Nat.le_log2 nonzero).2 long
  have whole : 2 ^ 23 * 2 ^ (number.log2 - 23) ≤ number := by
    rwa [← Nat.pow_add, Nat.add_sub_cancel' log]
  exact near_roundDiv number (Nat.two_pow_pos _) (Decimal.le_roundDiv (Nat.two_pow_pos _) whole)

/-! ## Operations -/

/-- A whole number of at most 24 binary digits is brought to 24, and then there is nothing to round
away. -/
theorem ofNat_eq {number : Nat} (positive : 0 < number) (log : number.log2 ≤ 23) :
    UnpackedFloat.ofNat .binary32 number = roundWithAccuracy .binary32 .positive
      (number * 2 ^ (23 - number.log2)) (0 - (23 - number.log2 : Nat)) .exact := by
  have order : compare (number : Int) 0 = .gt := Int.compare_eq_gt.2 (by omega)
  have target : Format.binary32.targetExponent (totalExponent number 0) = number.log2 - 23 := by
    show max ((number.log2 : Int) + 1 + 0 - (24 : Nat)) (3 - 2 ^ 7 - (24 : Nat)) = _
    omega
  have left : ((0 : Int) - (number.log2 - 23)).toNat = 23 - number.log2 := by omega
  simp only [UnpackedFloat.ofNat, UnpackedFloat.ofInt, UnpackedFloat.normalize, order,
    Int.toNat_natCast, UnpackedFloat.round, target, decreaseExponent, left, Nat.shiftLeft_eq]

/-- A whole number of at most 24 binary digits is held without loss. -/
theorem exists_holds_ofNat {number : Nat} (positive : 0 < number) (small : number < 2 ^ 24)
    {value : Float32} (packed : value.toModel = .pack (UnpackedFloat.ofNat .binary32 number)) :
    ∃ mantissa shift, Holds value mantissa shift ∧ 126 ≤ shift ∧ shift ≤ 150 ∧
      singleUnits value = number * 2 ^ 149 := by
  have log : number.log2 < 24 := (Nat.log2_lt (Nat.ne_of_gt positive)).2 small
  have log' : (number * 2 ^ (23 - number.log2)).log2 = 23 + 0 := by
    rw [log2_mul_two_pow (Nat.ne_of_gt positive)]
    omega
  rw [ofNat_eq positive (Nat.le_of_lt_succ log)] at packed
  obtain ⟨rounded, shift, holds, least, most, -, units⟩ := holds_of_rounded (126 + number.log2)
    packed (.exact _) Nat.one_pos log' (by omega) (by omega)
  refine ⟨rounded, shift, holds, by omega, by omega, ?_⟩
  rw [units, Nat.pow_zero, Nat.mul_one, Decimal.roundDiv_one, Nat.mul_assoc, ← Nat.pow_add]
  congr 2
  omega

section operations

variable {first second : Float32} {mantissa mantissa' shift shift' : Nat}

/-- The product of two singles is the exact one with its first 24 binary digits. -/
theorem Holds.mul (left : Holds first mantissa shift) (right : Holds second mantissa' shift')
    (low : 126 ≤ shift + shift') (high : shift + shift' ≤ 377) :
    singleUnits (first * second) * 2 ^ 149 =
      significant (singleUnits first * singleUnits second) := by
  have packed : (first * second).toModel = .pack (roundWithAccuracy .binary32 .positive
      (mantissa * mantissa') ((shift : Int) - 149 + ((shift' : Int) - 149)) .exact) := by
    show Float32.Model.pack (UnpackedFloat.mul .binary32 first.toModel.unpack
      second.toModel.unpack) = _
    rw [left.unpack_eq, right.unpack_eq]
    rfl
  have least : 2 ^ 23 * 2 ^ 23 ≤ mantissa * mantissa' := Nat.mul_le_mul left.le right.le
  have most : mantissa * mantissa' < 2 ^ 24 * 2 ^ 24 := Nat.mul_lt_mul'' left.lt right.lt
  obtain ⟨digits, log, few, many⟩ : ∃ digits, (mantissa * mantissa').log2 = 23 + digits ∧
      23 ≤ digits ∧ digits ≤ 24 := by
    by_cases short : mantissa * mantissa' < 2 ^ (24 + 23)
    · exact ⟨23, log2_eq_of_le least short, by decide, by decide⟩
    · exact ⟨24, log2_eq_of_le (Nat.not_lt.1 short) most, by decide, by decide⟩
  obtain ⟨rounded, shift'', -, -, -, -, product⟩ := holds_of_rounded
    (shift + shift' + digits - 149) packed (.exact _) Nat.one_pos log (by omega) (by omega)
  have exact_eq : singleUnits first * singleUnits second =
      mantissa * mantissa' * 2 ^ (shift + shift') := by
    rw [left.singleUnits_eq, right.singleUnits_eq, Nat.mul_mul_mul_comm, Nat.pow_add]
  have place : shift + shift' + digits - 149 + 149 = digits + (shift + shift') := by omega
  have unit : (mantissa * mantissa').log2 - 23 = digits := by omega
  rw [product, exact_eq, significant_mul_two_pow (Nat.le_trans (by decide) least), significant,
    unit, Nat.one_mul, Nat.mul_assoc, Nat.mul_assoc, ← Nat.pow_add, ← Nat.pow_add, place]

/-- A product of two singles is near to the exact one. -/
theorem Holds.near_mul (left : Holds first mantissa shift) (right : Holds second mantissa' shift')
    (low : 126 ≤ shift + shift') (high : shift + shift' ≤ 377) :
    Near (singleUnits (first * second) * 2 ^ 149) (singleUnits first * singleUnits second) := by
  rw [left.mul right low high]
  apply near_significant
  rw [left.singleUnits_eq, right.singleUnits_eq]
  calc 2 ^ 23 ≤ 2 ^ 23 * 1 * (1 * 1) := Nat.le_refl _
    _ ≤ mantissa * 2 ^ shift * (mantissa' * 2 ^ shift') := Nat.mul_le_mul
      (Nat.mul_le_mul left.le (Nat.two_pow_pos shift))
      (Nat.mul_le_mul (Nat.le_trans (by decide) right.le) (Nat.two_pow_pos shift'))

/-- Of two whole mantissas the quotient is taken with 24 binary digits at least. -/
theorem divCore_eq (left : Holds first mantissa shift) (right : Holds second mantissa' shift')
    (low : shift' ≤ shift + 125) :
    divCore .binary32 mantissa ((shift : Int) - 149) mantissa' ((shift' : Int) - 149) =
      (mantissa * 2 ^ 24 / mantissa', (shift : Int) - shift' - 24,
        accuracyOfFraction (mantissa * 2 ^ 24 % mantissa') mantissa') := by
  have log : mantissa.log2 = 23 + 0 := log2_eq_of_le left.le left.lt
  have log' : mantissa'.log2 = 23 + 0 := log2_eq_of_le right.le right.lt
  have target : Format.binary32.targetExponent (totalExponent mantissa ((shift : Int) - 149) -
      totalExponent mantissa' ((shift' : Int) - 149)) = (shift : Int) - shift' - 24 := by
    show max (((mantissa.log2 : Nat) : Int) + 1 + ((shift : Int) - 149) -
      (((mantissa'.log2 : Nat) : Int) + 1 + ((shift' : Int) - 149)) - (24 : Nat))
        (3 - 2 ^ 7 - (24 : Nat)) = _
    rw [log, log']
    omega
  have least : min ((shift : Int) - 149 - ((shift' : Int) - 149)) ((shift : Int) - shift' - 24) =
      (shift : Int) - shift' - 24 := by omega
  have amount : ((shift : Int) - 149 - ((shift' : Int) - 149) -
      ((shift : Int) - shift' - 24)).toNat = 24 := by omega
  simp only [divCore, target, least, amount, Nat.shiftLeft_eq]

/-- A quotient of two singles is near to the exact one. -/
theorem Holds.div (left : Holds first mantissa shift) (right : Holds second mantissa' shift')
    (low : shift' ≤ shift + 125) (high : shift ≤ shift' + 126) :
    Near (singleUnits (first / second) * singleUnits second) (singleUnits first * 2 ^ 149) ∧
      ∃ mantissa'' shift'', Holds (first / second) mantissa'' shift'' ∧
        shift + 125 ≤ shift'' + shift' ∧ shift'' + shift' ≤ shift + 127 := by
  have positive : 0 < mantissa' := Nat.lt_of_lt_of_le (by decide) right.le
  have packed : (first / second).toModel = .pack (roundWithAccuracy .binary32 .positive
      (mantissa * 2 ^ 24 / mantissa') ((shift : Int) - shift' - 24)
      (accuracyOfFraction (mantissa * 2 ^ 24 % mantissa') mantissa')) := by
    show Float32.Model.pack (UnpackedFloat.div .binary32 first.toModel.unpack
      second.toModel.unpack) = _
    rw [left.unpack_eq, right.unpack_eq]
    unfold UnpackedFloat.div
    dsimp only
    rw [divCore_eq left right low]
    rfl
  obtain ⟨digits, log, few⟩ : ∃ digits, (mantissa * 2 ^ 24 / mantissa').log2 = 23 + digits ∧
      digits ≤ 1 := by
    have least : 2 ^ 23 ≤ mantissa * 2 ^ 24 / mantissa' :=
      (Nat.le_div_iff_mul_le positive).2 (Nat.mul_le_mul left.le (Nat.le_of_lt right.lt))
    have most : mantissa * 2 ^ 24 / mantissa' < 2 ^ 25 := by
      apply (Nat.div_lt_iff_lt_mul positive).2
      have := left.lt
      have := right.le
      omega
    by_cases short : mantissa * 2 ^ 24 / mantissa' < 2 ^ 24
    · exact ⟨0, log2_eq_of_le least short, by decide⟩
    · exact ⟨1, log2_eq_of_le (Nat.not_lt.1 short) most, by decide⟩
  obtain ⟨rounded, shift'', holds, least, most, large, quotient⟩ := holds_of_rounded
    (shift + 125 + digits - shift') packed (.ofFraction _ positive) positive log (by omega)
    (by omega)
  refine ⟨?_, rounded, shift'', holds, by omega, by omega⟩
  have near := (near_mul_right_iff (Nat.two_pow_pos (shift + 125))).2 (near_roundDiv
    (mantissa * 2 ^ 24) (Nat.mul_pos positive (Nat.two_pow_pos digits)) large)
  have place : 2 ^ (shift + 125 + digits - shift') * 2 ^ shift' =
      2 ^ digits * 2 ^ (shift + 125) := by
    rw [← Nat.pow_add, ← Nat.pow_add]
    congr 1
    omega
  have exact_eq : singleUnits first * 2 ^ 149 = mantissa * 2 ^ 24 * 2 ^ (shift + 125) := by
    rw [left.singleUnits_eq, Nat.mul_assoc, Nat.mul_assoc, ← Nat.pow_add, ← Nat.pow_add]
    congr 2
    omega
  rw [← Nat.mul_assoc] at near
  rwa [quotient, right.singleUnits_eq, exact_eq, Nat.mul_mul_mul_comm, place, ← Nat.mul_assoc]

/-- Over and under a single that is held, zero stays zero. -/
theorem singleUnits_zero (divisor : Holds first mantissa shift)
    (factor : Holds second mantissa' shift') :
    singleUnits ((0 : UInt16).toFloat32 / first * second) = 0 := by
  have quotient : (0 : UInt16).toFloat32 / first = (0 : UInt16).toFloat32 := by
    apply congrArg Float32.ofModel
    show Float32.Model.pack (UnpackedFloat.div .binary32 (.zero .positive)
      first.toModel.unpack) = _
    rw [divisor.unpack_eq]
    rfl
  have product : (0 : UInt16).toFloat32 * second = (0 : UInt16).toFloat32 := by
    apply congrArg Float32.ofModel
    show Float32.Model.pack (UnpackedFloat.mul .binary32 (.zero .positive)
      second.toModel.unpack) = _
    rw [factor.unpack_eq]
    rfl
  rw [quotient, product]
  decide

end operations

end UpsTelemetry.Single
