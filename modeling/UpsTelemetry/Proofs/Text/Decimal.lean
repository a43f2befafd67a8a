import Mathlib.Algebra.Ring.Nat
import Mathlib.Data.List.Basic
import UpsTelemetry.Text.Decimal

/-!
# Which decimal is shown

The text of a measurement is that of the nearest decimal with so many places, and of the one with an
even last digit if two are equally near.

* `Decimal.roundDiv_eq_iff`: the rounding, without a quotient. `Decimal.roundDiv_mul_right`: it is a
  matter of the ratio alone.
* `Decimal.pointed`: a decimal written place by place. `Decimal.ofScaled_eq_pointed`: this is what
  is shown, the zeros behind the point included.
* `Decimal.ofSingle_eq_pointed`: the text of a single.
-/

namespace UpsTelemetry.Decimal

/-! ## Rounding -/

variable {num den number : Nat}

/-- A number is a nearest one to a quotient, and even if there is another. -/
structure Nearest (num den number : Nat) : Prop where
  /-- It is no more than one half too small. -/
  below : 2 * num ≤ 2 * (number * den) + den
  /-- It is no more than one half too large. -/
  above : 2 * (number * den) ≤ 2 * num + den
  /-- Half way to one of its neighbours it is the even one of the two. -/
  even : 2 * num = 2 * (number * den) + den ∨ 2 * (number * den) = 2 * num + den → number % 2 = 0

/-- The rounded quotient is a nearest number. -/
theorem nearest_roundDiv (num : Nat) (positive : 0 < den) :
    Nearest num den (roundDiv num den) := by
  have split : num = num / den * den + num % den := (Nat.div_add_mod' num den).symm
  have small : num % den < den := Nat.mod_lt num positive
  unfold roundDiv
  generalize num / den = quotient at split ⊢
  generalize num % den = rest at split small ⊢
  have next : (quotient + 1) * den = quotient * den + den := Nat.succ_mul quotient den
  by_cases up : den < 2 * rest ∨ 2 * rest = den ∧ quotient % 2 = 1
  · simp only [if_pos up]
    exact ⟨by omega, by omega, by omega⟩
  · simp only [if_neg up]
    exact ⟨by omega, by omega, by omega⟩

/-- No other number is a nearest one. -/
theorem Nearest.unique {first second : Nat} (positive : 0 < den) (here : Nearest num den first)
    (there : Nearest num den second) : first = second := by
  -- Two that differ are neighbours, with the quotient half way between, and both would be even.
  have le {first second : Nat} (here : Nearest num den first) (there : Nearest num den second) :
      second ≤ first := by
    by_contra less
    obtain ⟨more, rfl⟩ := Nat.exists_eq_add_of_lt (Nat.not_le.1 less)
    have apart : (first + more + 1) * den = first * den + more * den + den := by
      rw [Nat.add_mul, Nat.add_mul, Nat.one_mul]
    have := here.below
    have := there.above
    have none : more * den = 0 := by omega
    obtain rfl : more = 0 := (Nat.mul_eq_zero.1 none).resolve_right (Nat.ne_of_gt positive)
    have := here.even (by omega)
    have := there.even (by omega)
    omega
  exact Nat.le_antisymm (le there here) (le here there)

/-- So the rounded quotient is the nearest number, without a quotient in the statement. -/
theorem roundDiv_eq_iff (positive : 0 < den) :
    roundDiv num den = number ↔ Nearest num den number :=
  ⟨fun same => same ▸ nearest_roundDiv num positive,
    (nearest_roundDiv num positive).unique positive⟩

/-- A number that is nearer than one half is the rounded quotient. -/
theorem roundDiv_of_near (positive : 0 < den) (below : 2 * num < 2 * (number * den) + den)
    (above : 2 * (number * den) < 2 * num + den) : roundDiv num den = number :=
  (roundDiv_eq_iff positive).2 ⟨Nat.le_of_lt below, Nat.le_of_lt above, by omega⟩

/-- Only the ratio matters. -/
theorem roundDiv_mul_right (num den : Nat) {factor : Nat} (nonzero : 0 < factor) :
    roundDiv (num * factor) (den * factor) = roundDiv num den := by
  have doubled : 2 * (num % den * factor) = 2 * (num % den) * factor :=
    (Nat.mul_assoc 2 _ factor).symm
  simp only [roundDiv, Nat.mul_div_mul_right num den nonzero, Nat.mul_mod_mul_right, doubled,
    Nat.mul_lt_mul_right nonzero, Nat.mul_right_cancel_iff nonzero]

/-- A whole quotient is left as it is. -/
@[simp] theorem roundDiv_one (num : Nat) : roundDiv num 1 = num :=
  roundDiv_of_near Nat.one_pos (by omega) (by omega)

/-- What is rounded lies between whole bounds only if the bounds hold before. -/
theorem le_roundDiv {bound : Nat} (positive : 0 < den) (least : bound * den ≤ num) :
    bound ≤ roundDiv num den := by
  obtain ⟨below, -, -⟩ := nearest_roundDiv num positive
  by_contra less
  have := Nat.mul_le_mul_right den (Nat.succ_le_of_lt (Nat.not_le.1 less))
  rw [Nat.succ_mul] at this
  omega

/-- The same holds of a bound from above. -/
theorem roundDiv_le {bound : Nat} (positive : 0 < den) (greatest : num ≤ bound * den) :
    roundDiv num den ≤ bound := by
  obtain ⟨-, above, -⟩ := nearest_roundDiv num positive
  by_contra more
  have := Nat.mul_le_mul_right den (Nat.succ_le_of_lt (Nat.not_le.1 more))
  rw [Nat.succ_mul] at this
  omega

/-! ## Places -/

/-- The digits behind the point: those of the last places of a number, the highest first. -/
def lastDigits (places number : Nat) : List Char :=
  (List.range places).reverse.map fun place => (number / 10 ^ place % 10).digitChar

/-- A number of `10⁻ᵖ`s with a point in it: its whole part, and one digit for each place. -/
def pointed (places number : Nat) : String :=
  (number / 10 ^ places).repr ++ "." ++ String.ofList (lastDigits places number)

/-- The last place comes last. -/
theorem lastDigits_succ (places number : Nat) :
    lastDigits (places + 1) number =
      lastDigits places (number / 10) ++ [(number % 10).digitChar] := by
  have shift (place : Nat) : number / 10 ^ (place + 1) = number / 10 / 10 ^ place := by
    rw [Nat.pow_succ', Nat.div_div_eq_div_mul]
  rw [lastDigits, List.range_succ_eq_map, List.reverse_cons, List.map_append, List.map_singleton,
    ← List.map_reverse, List.map_map, Nat.pow_zero, Nat.div_one]
  simp only [lastDigits, Function.comp_def, Nat.succ_eq_add_one, shift]

/-- Places before the first one that counts hold zeros. -/
theorem lastDigits_zero (places : Nat) : lastDigits places 0 = List.replicate places '0' := by
  induction places with
  | zero => rfl
  | succ places ih =>
    rw [lastDigits_succ, Nat.zero_div, ih, List.replicate_succ']
    rfl

/-- A numeral filled up with zeros has its digits in their places. -/
theorem leftpad_toDigits (places : Nat) {number : Nat} (small : number < 10 ^ (places + 1)) :
    (Nat.toDigits 10 number).leftpad (places + 1) '0' = lastDigits (places + 1) number := by
  -- By induction on the places: the last digit is cut off on both sides.
  induction places generalizing number with
  | zero =>
    have few : number < 10 := small
    rw [Nat.toDigits_of_lt_base few, lastDigits_succ, Nat.mod_eq_of_lt few]
    rfl
  | succ places ih =>
    by_cases short : number < 10
    · rw [Nat.toDigits_of_lt_base short, lastDigits_succ, Nat.div_eq_of_lt short,
        Nat.mod_eq_of_lt short, lastDigits_zero]
      rfl
    · have rest : number / 10 < 10 ^ (places + 1) := by
        rw [Nat.pow_succ] at small
        exact (Nat.div_lt_iff_lt_mul (by decide)).2 small
      rw [Nat.toDigits_of_base_le (by decide) (Nat.not_lt.1 short), lastDigits_succ, ← ih rest,
        List.leftpad, List.leftpad, List.length_append, List.length_singleton,
        Nat.add_sub_add_right, List.append_assoc]

/-- The digits behind the point do not depend on the whole part. -/
theorem lastDigits_mod (places number : Nat) :
    lastDigits places (number % 10 ^ places) = lastDigits places number := by
  induction places generalizing number with
  | zero => rfl
  | succ places ih =>
    have rest : number % 10 ^ (places + 1) / 10 = number / 10 % 10 ^ places := by
      rw [Nat.pow_succ', Nat.mod_mul_right_div_self]
    have last : number % 10 ^ (places + 1) % 10 = number % 10 :=
      Nat.mod_mod_of_dvd number ⟨10 ^ places, Nat.pow_succ'⟩
    rw [lastDigits_succ, lastDigits_succ, rest, last, ih]

/-- What is shown is written place by place. -/
theorem ofScaled_eq_pointed (places scaled : Nat) :
    ofScaled (places + 1) scaled = pointed (places + 1) scaled := by
  have small : scaled % 10 ^ (places + 1) < 10 ^ (places + 1) :=
    Nat.mod_lt _ (Nat.pow_pos (by decide))
  have digits := leftpad_toDigits places small
  rw [lastDigits_mod] at digits
  unfold ofScaled pointed
  show String.ofList (Nat.toDigits 10 (scaled / 10 ^ (places + 1)) ++
    '.' :: (Nat.toDigits 10 (scaled % 10 ^ (places + 1))).leftpad (places + 1) '0') = _
  rw [digits, Nat.repr_eq_ofList_toDigits, String.append_assoc, String.ofList_append]
  exact congrArg (_ ++ ·) (@String.ofList_append ['.'] _)

/-- The text of a single is that of the nearest decimal with so many places. -/
theorem ofSingle_eq_pointed (places : Nat) (value : Float32) :
    ofSingle (places + 1) value = pointed (places + 1)
      (roundDiv (singleUnits value * 10 ^ (places + 1)) (2 ^ 149)) := by
  rw [← ofScaled_eq_pointed, ofSingle, Nat.one_shiftLeft]
  rfl

end UpsTelemetry.Decimal
