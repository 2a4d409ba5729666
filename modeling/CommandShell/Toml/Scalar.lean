/-
This file reads the values of TOML that are written without quotes: numbers, booleans, dates and
times.
-/

import CommandShell.Binary.Decimal
import CommandShell.Toml.Text
import CommandShell.Toml.Value

namespace CommandShell.Toml

open Binary

/-- Every underscore stands between two digits. -/
def isGrouped (isDigit : Char → Bool) : List Char → Bool
  | [] => true
  | '_' :: _ => false
  | [_] => true
  | char :: '_' :: rest => isDigit char && rest.head?.any isDigit && isGrouped isDigit rest
  | _ :: next :: rest => isGrouped isDigit (next :: rest)

def withoutUnderscores (token : List Char) : List Char :=
  token.filter (· != '_')

/-- A number in decimal digits does not start with a zero that could be left out. -/
def hasSpareZero (digits : List Char) : Bool :=
  digits.head? = some '0' && digits.length ≠ 1

def isDigitOf (radix : Nat) (char : Char) : Bool :=
  (hexadecimalDigit? char).any (· < radix)

def radixValue (radix : Nat) (digits : List Char) : Nat :=
  digits.foldl (fun value char => radix * value + (hexadecimalDigit? char).getD 0) 0

/-- This reads what stands behind the mark of a radix, where the digits may be missing. -/
def readMarked? (radix : Nat) (text : List Char) : Option Value :=
  let digits := withoutUnderscores text
  if digits.all (isDigitOf radix) && isGrouped (isDigitOf radix) text then
    some <|
      if digits.isEmpty then .numeral (String.ofList text) else .integer (radixValue radix digits)
  else
    none

/-- This says whether a token has the form of a whole number: decimal digits, and behind an
underscore anything but spaces and what makes a decimal. Underscores stand between hexadecimal
digits. -/
def isWhole (token : List Char) : Bool :=
  let unsigned := (splitSign token).2
  let rest := unsigned.dropWhile Char.isDigit
  !unsigned.isEmpty && !hasSpareZero unsigned && (rest.isEmpty || rest.head? = some '_') &&
    !rest.any (fun char => char ∈ ['.', ' '] || Decimal.isExponentMark char) &&
    isGrouped (isDigitOf 16) unsigned

/-- Whole numbers are written in decimal digits with an optional sign, or in other digits behind a
mark for their radix. -/
def readWhole? : List Char → Option Value
  | '0' :: 'x' :: rest => readMarked? 16 rest
  | '0' :: 'o' :: rest => readMarked? 8 rest
  | '0' :: 'b' :: rest => readMarked? 2 rest
  | token =>
      if isWhole token then
        match readInteger? (withoutUnderscores token) with
        | some value => some (.integer value)
        | none => some (.numeral (String.ofList token))
      else
        none

/-- A decimal has digits on both sides of a point, an exponent or both. -/
def isDecimal (token : List Char) : Bool :=
  let unsigned := (splitSign token).2
  let mantissa := unsigned.takeWhile fun char => !Decimal.isExponentMark char
  let exponent := unsigned.dropWhile fun char => !Decimal.isExponentMark char
  let whole := mantissa.takeWhile (· != '.')
  let fraction := mantissa.dropWhile (· != '.')
  let areDigits (text : List Char) : Bool := (readDigits? (withoutUnderscores text)).isSome
  isGrouped Char.isDigit unsigned && !hasSpareZero whole && areDigits whole &&
    (fraction.isEmpty || areDigits (fraction.drop 1)) &&
    (exponent.isEmpty || areDigits (splitSign (exponent.drop 1)).2) &&
    !(fraction.isEmpty && exponent.isEmpty)

def isSpecial (token : List Char) : Bool :=
  let unsigned := (splitSign token).2
  unsigned = ['i', 'n', 'f'] || unsigned = ['n', 'a', 'n']

/-- This reads a number of a fixed number of digits between two bounds. -/
def readField? (digits least greatest : Nat) (text : List Char) : Option (Nat × List Char) := do
  let value ← readDigits? (text.take digits)
  if (text.take digits).length = digits && least ≤ value && value ≤ greatest then
    some (value, text.drop digits)
  else
    none

def expect? (char : Char) (text : List Char) : Option (List Char) :=
  if text.head? = some char then some (text.drop 1) else none

def isLeapYear (year : Nat) : Bool :=
  (year % 4 = 0 && year % 100 ≠ 0) || year % 400 = 0

def daysIn (year month : Nat) : Nat :=
  if month = 2 then (if isLeapYear year then 29 else 28)
  else if month ∈ [4, 6, 9, 11] then 30
  else 31

def readDate? (text : List Char) : Option (List Char) := do
  let (year, text) ← readField? 4 0 9999 text
  let (month, text) ← readField? 2 1 12 (← expect? '-' text)
  let (_, text) ← readField? 2 1 (daysIn year month) (← expect? '-' text)
  return text

/-- Seconds and their fraction may be left out. -/
def readTime? (text : List Char) : Option (List Char) := do
  let (_, text) ← readField? 2 0 23 text
  let (_, text) ← readField? 2 0 59 (← expect? ':' text)
  match text with
  | ':' :: text =>
      let (_, text) ← readField? 2 0 60 text
      match text with
      | '.' :: text =>
          if (text.takeWhile Char.isDigit).isEmpty then none
          else some (text.dropWhile Char.isDigit)
      | _ => some text
  | _ => some text

def isOffset : List Char → Bool
  | [] => true
  | [char] => char = 'Z' || char = 'z'
  | sign :: text =>
      (sign = '+' || sign = '-') &&
        (do
          let (_, text) ← readField? 2 0 23 text
          let (_, text) ← readField? 2 0 59 (← expect? ':' text)
          return text.isEmpty : Option Bool).getD false

def isMoment (token : List Char) : Bool :=
  match readDate? token with
  | some [] => true
  | some (separator :: rest) =>
      (separator = 'T' || separator = 't' || separator = ' ') && (readTime? rest).any isOffset
  | none => (readTime? token).any List.isEmpty

def scalar? (token : List Char) : Option Value :=
  if token = ['t', 'r', 'u', 'e'] then some (.boolean true)
  else if token = ['f', 'a', 'l', 's', 'e'] then some (.boolean false)
  else
    match readWhole? token with
    | some value => some value
    | none =>
        if isSpecial token || isDecimal token then some (.float (String.ofList token))
        else if isMoment token then some (.moment (String.ofList token))
        else none

/-- The widest integers have 128 bits, with or without a sign. -/
def integerFits (value : Int) : Bool :=
  -(Nat.pow 2 127 : Int) ≤ value && value < Nat.pow 2 128

/-- A decimal that rounds to an infinity does not fit. -/
def floatFits (token : List Char) : Bool :=
  isSpecial token ||
    (Decimal.read? (withoutUnderscores token)).any fun decimal =>
      (decimal.toNumber binary64).isFinite

mutual

/-- This says whether all numbers of a value fit. Others may stand in a document, but nobody can use
them. -/
def Value.fits : Value → Bool
  | .integer value => integerFits value
  | .numeral _ => false
  | .float text => floatFits text.toList
  | .array items => allFit items
  | .table _ entries => entriesFit entries
  | .tables items => tablesFit items
  | _ => true

def allFit : List Value → Bool
  | [] => true
  | item :: rest => item.fits && allFit rest

def entriesFit : List (String × Value) → Bool
  | [] => true
  | (_, value) :: rest => value.fits && entriesFit rest

def tablesFit : List (List (String × Value)) → Bool
  | [] => true
  | entries :: rest => entriesFit entries && tablesFit rest

end

end CommandShell.Toml
