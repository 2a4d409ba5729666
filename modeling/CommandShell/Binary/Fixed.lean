/-
This file writes binary numbers with a fixed number of decimal places.
-/

import CommandShell.Binary.Rounding

namespace CommandShell.Binary

/-- A whole number of the last places, written with a point before them. -/
def writePlaces (places count : Nat) : List Char :=
  let digits := Nat.toDigits 10 count
  let padded := List.replicate (places + 1 - digits.length) '0' ++ digits
  padded.take (padded.length - places) ++ '.' :: padded.drop (padded.length - places)

/-- The exact value is rounded to the places; a half goes to the even neighbour. -/
def Number.writeFixed (places : Nat) : Number → String
  | .nan => "NaN"
  | .infinite negative => if negative then "-inf" else "inf"
  | .finite negative significand exponent =>
      let count := roundHalfEven (significand * Nat.pow 10 places * Nat.pow 2 exponent.toNat)
        (Nat.pow 2 (-exponent).toNat)
      String.ofList ((if negative then ['-'] else []) ++ writePlaces places count)

end CommandShell.Binary
