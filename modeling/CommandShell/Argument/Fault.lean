/-
This file lists what can be wrong with the text of an argument, and how that is told.
-/

namespace CommandShell.Argument

inductive NumberType where
  | integer
  | long
  | float
  | double
  deriving Repr, DecidableEq

namespace NumberType

def name : NumberType → String
  | .integer => "integer"
  | .long => "long"
  | .float => "float"
  | .double => "double"

/-- This is the name at the start of a sentence. -/
def title : NumberType → String
  | .integer => "Integer"
  | .long => "Long"
  | .float => "Float"
  | .double => "Double"

end NumberType

/-- Faults of one kind are shown with the same remark. -/
inductive FaultKind where
  | outOfBounds
  | invalidBoolean
  | unterminatedQuote
  | invalidEscape
  | notANumber
  | expectedQuote
  deriving Repr, DecidableEq

def FaultKind.remark : FaultKind → String
  | .outOfBounds => "out of bounds"
  | .invalidBoolean => "invalid boolean"
  | .unterminatedQuote => "unterminated quote"
  | .invalidEscape => "invalid escape"
  | .notANumber => "not a number"
  | .expectedQuote => "expected quote"

inductive Fault where
  | expectedQuote
  | invalidEscape (char : Char)
  | unterminatedQuote
  | notANumber (type : NumberType) (token : String)
  | doesNotFit (type : NumberType) (token : String)
  | tooSmall (type : NumberType) (least found : String)
  | tooLarge (type : NumberType) (greatest found : String)
  | invalidBoolean (token : String)
  /-- A decoder outside this library reports its own fault. -/
  | reported (kind : FaultKind) (message : String)
  deriving Repr, DecidableEq

namespace Fault

def kind : Fault → FaultKind
  | .expectedQuote => .expectedQuote
  | .invalidEscape _ => .invalidEscape
  | .unterminatedQuote => .unterminatedQuote
  | .notANumber .. => .notANumber
  | .doesNotFit .. => .outOfBounds
  | .tooSmall .. => .outOfBounds
  | .tooLarge .. => .outOfBounds
  | .invalidBoolean _ => .invalidBoolean
  | .reported kind _ => kind

def message : Fault → String
  | .expectedQuote => "Expected quote to start a string"
  | .invalidEscape char => "Invalid escape sequence '" ++ char.toString ++ "' in quoted string"
  | .unterminatedQuote => "Unclosed quoted string"
  | .notANumber type token =>
      if token.isEmpty then "Expected " ++ type.name
      else "Invalid " ++ type.name ++ " '" ++ token ++ "'"
  | .doesNotFit type token => "Value '" ++ token ++ "' does not fit in a " ++ type.name
  | .tooSmall type least found =>
      type.title ++ " must not be less than " ++ least ++ ", found " ++ found
  | .tooLarge type greatest found =>
      type.title ++ " must not be more than " ++ greatest ++ ", found " ++ found
  | .invalidBoolean token =>
      "Invalid boolean, expected 'true' or 'false' but found '" ++ token ++ "'"
  | .reported _ message => message

end Fault

/-- The position is the offset of the faulty text in its line. -/
structure DecodeError where
  fault : Fault
  position : Nat
  deriving Repr, DecidableEq

def DecodeError.message (error : DecodeError) : String :=
  error.fault.message ++ " (" ++ error.fault.kind.remark ++ ")"

end CommandShell.Argument
