/-
This file reads decimal numerals: an optional sign, digits with at most one point, and an optional
exponent.
-/

import CommandShell.Binary.Rounding

namespace CommandShell.Binary

/-- This is the token without its sign, and whether the sign is a minus. -/
def splitSign : List Char → Bool × List Char
  | '-' :: rest => (true, rest)
  | '+' :: rest => (false, rest)
  | token => (false, token)

def digitValue (char : Char) : Nat :=
  char.toNat - '0'.toNat

/-- This is the value of a run of decimal digits, the most significant first. -/
def digitsValue (digits : List Char) : Nat :=
  digits.foldl (fun value char => 10 * value + digitValue char) 0

/-- A run of digits is not empty. -/
def readDigits? (digits : List Char) : Option Nat :=
  if !digits.isEmpty && digits.all Char.isDigit then some (digitsValue digits) else none

/-- A whole numeral is an optional sign and a run of digits. -/
def readInteger? (token : List Char) : Option Int :=
  let (negative, digits) := splitSign token
  (readDigits? digits).map fun magnitude =>
    if negative then -(magnitude : Int) else magnitude

/-- This is a whole number times a power of ten. -/
structure Decimal where
  negative : Bool
  significand : Nat
  exponent : Int
  deriving Repr, DecidableEq

namespace Decimal

def isExponentMark (char : Char) : Bool :=
  char == 'e' || char == 'E'

/-- This reads digits with at most one point among them; the second part is the number of digits
behind the point. -/
def readMantissa? (mantissa : List Char) : Option (Nat × Nat) :=
  let whole := mantissa.takeWhile (· != '.')
  let fraction := (mantissa.dropWhile (· != '.')).drop 1
  (readDigits? (whole ++ fraction)).map fun significand => (significand, fraction.length)

def readExponent? (unsigned : List Char) : Option Int :=
  match unsigned.dropWhile fun char => !isExponentMark char with
  | [] => some 0
  | _ :: exponent => readInteger? exponent

def read? (token : List Char) : Option Decimal := do
  let (negative, unsigned) := splitSign token
  let (significand, places) ← readMantissa? (unsigned.takeWhile fun char => !isExponentMark char)
  let exponent ← readExponent? unsigned
  return ⟨negative, significand, exponent - places⟩

/-- Decimals of at least ten to this power are infinite in every format here. -/
def greatestMagnitude : Int := 400

/-- This is the nearest number of a format. Magnitudes far outside both formats need no arithmetic. -/
def toNumber (format : Format) (decimal : Decimal) : Number :=
  let magnitude := decimal.exponent + (Nat.toDigits 10 decimal.significand).length
  if decimal.significand = 0 || magnitude < -greatestMagnitude then
    .finite decimal.negative 0 format.minExponent
  else if greatestMagnitude < magnitude then
    .infinite decimal.negative
  else
    format.round decimal.negative (decimal.significand * Nat.pow 10 decimal.exponent.toNat)
      (Nat.pow 10 (-decimal.exponent).toNat)

end Decimal

/-- This reads a number of a format: a decimal numeral or, in any case, the name of a special value. -/
def Number.read? (format : Format) (text : String) : Option Number :=
  let (negative, unsigned) := splitSign text.toList
  let name := unsigned.map Char.toLower
  if name == "nan".toList then some .nan
  else if name == "inf".toList || name == "infinity".toList then some (.infinite negative)
  else (Decimal.read? text.toList).map (Decimal.toNumber format)

end CommandShell.Binary
