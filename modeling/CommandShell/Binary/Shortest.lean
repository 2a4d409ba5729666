/-
This file finds the shortest decimals that read back as a binary number, and writes them.
-/

import CommandShell.Binary.Decimal

namespace CommandShell.Binary

/-- The reals that round to a positive number lie between two bounds, in quarters of its last place.
The bounds themselves belong to it when its significand is even. -/
structure Neighbourhood where
  below : Nat
  value : Nat
  above : Nat
  closed : Bool
  /-- This is the power of two that one quarter of the last place counts for. -/
  exponent : Int

namespace Neighbourhood

/-- Below a power of two the numbers lie twice as dense, except where the least exponent ends. -/
def of (format : Format) (significand : Nat) (exponent : Int) : Neighbourhood where
  below :=
    if significand = Nat.pow 2 (format.precision - 1) && format.minExponent < exponent then
      4 * significand - 1
    else
      4 * significand - 2
  value := 4 * significand
  above := 4 * significand + 2
  closed := significand % 2 = 0
  exponent := exponent - 2

/-- This scales the neighbourhood and a power of ten to whole numbers: quarters count `unit` each,
and points of the decimal grid lie at the multiples of `grid`. -/
def scales (around : Neighbourhood) (power : Int) : Nat × Nat :=
  (Nat.pow 2 around.exponent.toNat * Nat.pow 10 (-power).toNat,
    Nat.pow 2 (-around.exponent).toNat * Nat.pow 10 power.toNat)

def contains (around : Neighbourhood) (unit point : Nat) : Bool :=
  if around.closed then around.below * unit ≤ point && point ≤ around.above * unit
  else around.below * unit < point && point < around.above * unit

/-- This is the point of the grid of a power of ten that is nearest to the value, if one of its two
neighbours on the grid reads back as the value. Of two equally near points it is the greater. -/
def nearest? (around : Neighbourhood) (power : Int) : Option Nat :=
  let (unit, grid) := around.scales power
  let value := around.value * unit
  let lower := value / grid
  let upper := lower + 1
  let lowerFits := around.contains unit (lower * grid)
  let upperFits := around.contains unit (upper * grid)
  if lowerFits && (!upperFits || value - lower * grid < upper * grid - value) then some lower
  else if upperFits then some upper
  else none

/-- This tries ever finer grids, so that the first hit has the fewest digits. -/
def search (around : Neighbourhood) : Nat → Int → Nat × Int
  | 0, power => (0, power)
  | steps + 1, power =>
      match around.nearest? power with
      | some point => (point, power)
      | none => search around steps (power - 1)

/-- The first grid is coarser than the value, and the last one finer than its last place. -/
def shortest (around : Neighbourhood) : Nat × Int :=
  let bits : Int := around.exponent + around.above.log2 + 1
  search around 24 (bits * 30103 / 100000 + 2)

end Neighbourhood

/-- This is the decimal with the fewest digits that reads back as a positive number, and of those
the nearest one: its digits and the power of ten that the last digit counts for. -/
def shortestDigits (format : Format) (significand : Nat) (exponent : Int) : List Char × Int :=
  if significand = 0 then
    (['0'], 0)
  else
    let (point, power) := (Neighbourhood.of format significand exponent).shortest
    (Nat.toDigits 10 point, power)

/-- A style of writing says what ends a whole number and which numbers need an exponent. -/
structure Style where
  wholeEnding : List Char
  /-- Numbers below ten to the first power, or from ten to the second on, have an exponent. -/
  positional : Option (Int × Int)

namespace Style

/-- Values are shown without an exponent, and whole numbers without a point. -/
def plain : Style := ⟨[], none⟩

/-- Values in reports keep a point, and extreme magnitudes have an exponent. -/
def pointed : Style := ⟨['.', '0'], some (-4, 16)⟩

def writePositional (style : Style) (digits : List Char) (power : Int) : List Char :=
  if 0 ≤ power then
    digits ++ List.replicate power.toNat '0' ++ style.wholeEnding
  else
    let places := (-power).toNat
    if places < digits.length then
      digits.take (digits.length - places) ++ '.' :: digits.drop (digits.length - places)
    else
      '0' :: '.' :: List.replicate (places - digits.length) '0' ++ digits

/-- The exponent is that of the first digit. -/
def writeScientific (digits : List Char) (exponent : Int) : List Char :=
  let mantissa :=
    match digits with
    | [] => []
    | [digit] => [digit]
    | digit :: rest => digit :: '.' :: rest
  mantissa ++ 'e' :: (toString exponent).toList

def write (style : Style) (digits : List Char) (power : Int) : List Char :=
  let exponent := power + digits.length - 1
  match style.positional with
  | some (least, limit) =>
      if digits != ['0'] && (exponent < least || limit ≤ exponent) then
        writeScientific digits exponent
      else
        style.writePositional digits power
  | none => style.writePositional digits power

end Style

/-- This writes a number of a format in a style. -/
def Number.write (style : Style) (format : Format) : Number → String
  | .nan => "NaN"
  | .infinite negative => if negative then "-inf" else "inf"
  | .finite negative significand exponent =>
      let (digits, power) := shortestDigits format significand exponent
      String.ofList ((if negative then ['-'] else []) ++ style.write digits power)

end CommandShell.Binary
