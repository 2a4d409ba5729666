/-
This file holds the values that arguments decode to, how they are shown and how they are used.
-/

import CommandShell.Binary.Shortest
import CommandShell.Text.Blank
import CommandShell.Text.Quotation
import CommandShell.Text.Quoted

namespace CommandShell.Argument

open Binary Text

inductive Value where
  | text (value : String)
  /-- This is a whole number of 32 bits. -/
  | integer (value : Int)
  /-- This is a whole number of 64 bits. -/
  | long (value : Int)
  | float (value : Number)
  | double (value : Number)
  | boolean (value : Bool)
  deriving Repr, DecidableEq

namespace Value

/-- Texts with blanks or quotes are shown in quotes. -/
def display : Value → String
  | .text value =>
      if value.toList.any fun char => isBlank char || isQuote char then Quoted.quote value else value
  | .integer value => toString value
  | .long value => toString value
  | .float value => value.write .plain binary32
  | .double value => value.write .plain binary64
  | .boolean value => toString value

/-- This shows a value together with its type. -/
def inspect : Value → String
  | .text value => "String(" ++ Quoted.quote value ++ ")"
  | .integer value => "Integer(" ++ toString value ++ ")"
  | .long value => "Long(" ++ toString value ++ ")"
  | .float value => "Float(" ++ value.write .pointed binary32 ++ ")"
  | .double value => "Double(" ++ value.write .pointed binary64 ++ ")"
  | .boolean value => "Bool(" ++ toString value ++ ")"

end Value

/-- A use of values has a name, and takes the values whose type it accepts. -/
structure Use (α : Type) where
  name : String
  take? : Value → Option α

namespace Use

def text : Use String where
  name := "string"
  take?
    | .text value => some value
    | _ => none

def integer : Use Int where
  name := "integer"
  take?
    | .integer value => some value
    | _ => none

/-- Every integer is also a long one. -/
def long : Use Int where
  name := "long"
  take?
    | .long value => some value
    | .integer value => some value
    | _ => none

def float : Use Number where
  name := "float"
  take?
    | .float value => some value
    | _ => none

/-- Every single precision number is also one of double precision. -/
def double : Use Number where
  name := "double"
  take?
    | .double value => some value
    | .float value => some (value.convert binary64)
    | _ => none

def boolean : Use Bool where
  name := "boolean"
  take?
    | .boolean value => some value
    | _ => none

end Use

end CommandShell.Argument
