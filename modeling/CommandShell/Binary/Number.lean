/-
This file represents the numbers of the binary interchange formats and orders them exactly.
-/

namespace CommandShell.Binary

/-- A finite number of the format is a significand of at most `precision` bits times a power of two. -/
structure Format where
  precision : Nat
  minExponent : Int
  maxExponent : Int
  deriving Repr, DecidableEq

def binary32 : Format := ⟨24, -149, 104⟩

def binary64 : Format := ⟨53, -1074, 971⟩

inductive Number where
  | nan
  | infinite (negative : Bool)
  /-- This is the significand times two to the exponent. -/
  | finite (negative : Bool) (significand : Nat) (exponent : Int)
  deriving Repr, DecidableEq

namespace Number

def isFinite : Number → Bool
  | .finite .. => true
  | _ => false

/-- This is the significand moved to a smaller exponent, with its sign. -/
def scaled (negative : Bool) (significand : Nat) (shift : Int) : Int :=
  let magnitude : Int := significand * Nat.pow 2 shift.toNat
  if negative then -magnitude else magnitude

/-- The order of the real line with its two ends; `nan` has no place in it. -/
def less : Number → Number → Bool
  | .nan, _ => false
  | _, .nan => false
  | .infinite negative, .infinite otherNegative => negative && !otherNegative
  | .infinite negative, .finite .. => negative
  | .finite .., .infinite negative => !negative
  | .finite negative significand exponent, .finite otherNegative otherSignificand otherExponent =>
      let common := min exponent otherExponent
      scaled negative significand (exponent - common) <
        scaled otherNegative otherSignificand (otherExponent - common)

end Number

end CommandShell.Binary
