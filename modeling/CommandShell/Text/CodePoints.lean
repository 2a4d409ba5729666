/-
This file represents a set of characters by the code points where membership changes.
-/

namespace CommandShell.Text

/-- The numbers increase; a code point is in the set when an odd number of them is at most it. -/
structure CodePoints where
  flips : List Nat

namespace CodePoints

def oddFlips (code : Nat) : List Nat → Bool
  | [] => false
  | flip :: rest => if code < flip then false else !oddFlips code rest

def contains (set : CodePoints) (char : Char) : Bool :=
  oddFlips char.toNat set.flips

end CodePoints

end CommandShell.Text
