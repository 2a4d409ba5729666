/-
This file rounds fractions to whole numbers and to the nearest number of a binary format.
-/

import CommandShell.Binary.Number

namespace CommandShell.Binary

/-- This rounds a fraction to the nearest whole number; a half goes to the even neighbour. -/
def roundHalfEven (numerator denominator : Nat) : Nat :=
  let floor := numerator / denominator
  let twice := 2 * (numerator % denominator)
  if twice < denominator then floor
  else if denominator < twice then floor + 1
  else if floor % 2 = 0 then floor
  else floor + 1

/-- This is a fraction divided by a power of two, as numerator and denominator. -/
def unscale (numerator denominator : Nat) (exponent : Int) : Nat × Nat :=
  (numerator * Nat.pow 2 (-exponent).toNat, denominator * Nat.pow 2 exponent.toNat)

namespace Format

/-- This is the exponent of the format at which a positive fraction has its full precision. -/
def exponentFor (format : Format) (numerator denominator : Nat) : Int :=
  let guess : Int := (numerator.log2 : Int) - denominator.log2 - format.precision
  let lower := max format.minExponent guess
  let (scaledNumerator, scaledDenominator) := unscale numerator denominator lower
  if Nat.pow 2 format.precision ≤ scaledNumerator / scaledDenominator then lower + 1 else lower

/-- This rounds a fraction to the nearest number of the format; a half goes to the even significand,
and what rounds past the greatest finite number is infinite. -/
def round (format : Format) (negative : Bool) (numerator denominator : Nat) : Number :=
  if numerator = 0 then
    .finite negative 0 format.minExponent
  else
    let exponent := format.exponentFor numerator denominator
    let (scaledNumerator, scaledDenominator) := unscale numerator denominator exponent
    let significand := roundHalfEven scaledNumerator scaledDenominator
    let (significand, exponent) :=
      if significand = Nat.pow 2 format.precision then
        (Nat.pow 2 (format.precision - 1), exponent + 1)
      else
        (significand, exponent)
    if format.maxExponent < exponent then .infinite negative
    else .finite negative significand exponent

end Format

/-- This is the same number in the form that another format gives it. -/
def Number.convert (format : Format) : Number → Number
  | .nan => .nan
  | .infinite negative => .infinite negative
  | .finite negative significand exponent =>
      format.round negative (significand * Nat.pow 2 exponent.toNat) (Nat.pow 2 (-exponent).toNat)

end CommandShell.Binary
