/-!
# Decimal text with fixed places

Measurements are shown with a fixed number of decimal places. The number shown is the exact value
of the single-precision quotient, rounded to the nearest decimal with that many places; a value
half way between two neighbours goes to the one whose last digit is even.

A finite single is a whole number of `2⁻¹⁴⁹`s (`singleUnits`), so the rounding is one division of
natural numbers (`roundDiv`) and nothing is lost on the way to the digits. Only values which are
finite and not negative are shown, so the sign is not looked at.
-/

namespace UpsTelemetry.Decimal

/-- The quotient of two naturals rounded to the nearest natural, a half to the even neighbour. -/
def roundDiv (num den : Nat) : Nat :=
  let quotient := num / den
  let twice := 2 * (num % den)
  if den < twice ∨ (twice = den ∧ quotient % 2 = 1) then quotient + 1 else quotient

/-- A finite single, taken without its sign, counted in units of `2⁻¹⁴⁹`. -/
def singleUnits (value : Float32) : Nat :=
  let bits := value.toBits.toNat
  let exponent := bits / 0x800000 % 0x100
  let fraction := bits % 0x800000
  if exponent = 0 then fraction else (0x800000 + fraction) <<< (exponent - 1)

/-- A number of `10⁻ᵖ`s written with `p` places after the point, and no point if `p` is zero. -/
def ofScaled (places scaled : Nat) : String :=
  let whole := Nat.toDigits 10 (scaled / Nat.pow 10 places)
  let fraction := (Nat.toDigits 10 (scaled % Nat.pow 10 places)).leftpad places '0'
  String.ofList (if places = 0 then whole else whole ++ '.' :: fraction)

/-- A finite single that is not negative, with `places` decimal places. -/
def ofSingle (places : Nat) (value : Float32) : String :=
  ofScaled places (roundDiv (singleUnits value * Nat.pow 10 places) (1 <<< 149))

end UpsTelemetry.Decimal
