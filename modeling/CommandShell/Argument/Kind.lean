/-
This file says which texts an argument accepts and decodes them.
-/

import CommandShell.Argument.Value
import CommandShell.Cursor
import CommandShell.Text.Record

namespace CommandShell.Argument

open Binary Text

/-- The bounds of numbers are inclusive. -/
inductive Kind where
  | word
  /-- This is a quotation or a word. -/
  | phrase
  /-- This is all that remains of the line. -/
  | remainder
  | integer (least greatest : Option Int)
  | long (least greatest : Option Int)
  | float (least greatest : Option Number)
  | double (least greatest : Option Number)
  | boolean
  deriving Repr, DecidableEq

/-- This checks that a value lies between bounds; the least one is checked first. -/
def checkBounds {α : Type} (type : NumberType) (less : α → α → Bool) (write : α → String)
    (least greatest : Option α) (value : α) : Except Fault α :=
  match least.filter (less value) with
  | some bound => .error (.tooSmall type (write bound) (write value))
  | none =>
      match greatest.filter (less · value) with
      | some bound => .error (.tooLarge type (write bound) (write value))
      | none => .ok value

/-- This reads a whole number that fits in a number of bits, one of which is the sign. -/
def readWhole (type : NumberType) (bits : Nat) (token : List Char) : Except Fault Int :=
  match readInteger? token with
  | none => .error (.notANumber type (String.ofList token))
  | some value =>
      let limit : Int := Nat.pow 2 (bits - 1)
      if -limit ≤ value && value < limit then .ok value
      else .error (.doesNotFit type (String.ofList token))

/-- This reads the number of a format that is nearest to a decimal. -/
def readDecimal (type : NumberType) (format : Format) (token : List Char) : Except Fault Number :=
  match Decimal.read? token with
  | none => .error (.notANumber type (String.ofList token))
  | some decimal =>
      let value := decimal.toNumber format
      if value.isFinite then .ok value
      else .error (.doesNotFit type (String.ofList token))

/-- Case does not matter. -/
def readBoolean (token : List Char) : Except Fault Bool :=
  let name := token.map Char.toLower
  if name = ['t', 'r', 'u', 'e'] then .ok true
  else if name = ['f', 'a', 'l', 's', 'e'] then .ok false
  else .error (.invalidBoolean (String.ofList token))

namespace Kind

def isGreedy : Kind → Bool
  | .remainder => true
  | _ => false

/-- This reads a word as a value. -/
def ofWord (token : List Char) : Kind → Except Fault Value
  | .word | .phrase | .remainder => .ok (.text (String.ofList token))
  | .integer least greatest => do
      let value ← readWhole .integer 32 token
      Value.integer <$> checkBounds .integer (· < ·) toString least greatest value
  | .long least greatest => do
      let value ← readWhole .long 64 token
      Value.long <$> checkBounds .long (· < ·) toString least greatest value
  | .float least greatest => do
      let value ← readDecimal .float binary32 token
      Value.float <$> checkBounds .float Number.less (Number.write .plain binary32)
        least greatest value
  | .double least greatest => do
      let value ← readDecimal .double binary64 token
      Value.double <$> checkBounds .double Number.less (Number.write .plain binary64)
        least greatest value
  | .boolean => Value.boolean <$> readBoolean token

/-- This reads the next word; a fault lies where the word starts. -/
def readWord (cursor : Cursor) (kind : Kind) : Except DecodeError Value × Cursor :=
  match kind.ofWord cursor.word with
  | .ok value => (.ok value, cursor.skipWord)
  | .error fault => (.error ⟨fault, cursor.offset⟩, cursor.skipWord)

/-- This reads a value; the cursor is left where reading stopped. -/
def read (cursor : Cursor) : Kind → Except DecodeError Value × Cursor
  | .phrase =>
      match cursor.readPhrase with
      | (.ok value, left) => (.ok (.text value), left)
      | (.error error, left) => (.error error, left)
  | .remainder => (.ok (.text (String.ofList cursor.remaining)), cursor.skipRemaining)
  | kind => kind.readWord cursor

/-- This reads a value or goes back to where the text of the value starts. -/
def decode (cursor : Cursor) (kind : Kind) : Except DecodeError Value × Cursor :=
  match kind.read cursor with
  | (.ok value, left) => (.ok value, left)
  | (.error error, left) => (.error error, left.moveTo cursor.offset)

/-- These are texts that the kind accepts. -/
def examples : Kind → List String
  | .word => ["word", "words_with_underscores"]
  | .phrase => ["\"quoted phrase\"", "word", "\"\""]
  | .remainder => ["word", "words with spaces", "\"and symbols\""]
  | .integer .. | .long .. => ["0", "123", "-123"]
  | .float .. | .double .. => ["0", "1.2", ".5", "-1"]
  | .boolean => ["true", "false"]

def displayBounds {α : Type} (name : String) (write : α → String) :
    Option α → Option α → String
  | some least, some greatest => name ++ "(" ++ write least ++ "..=" ++ write greatest ++ ")"
  | some least, none => name ++ "(" ++ write least ++ "..)"
  | none, some greatest => name ++ "(..=" ++ write greatest ++ ")"
  | none, none => name

def display : Kind → String
  | .word => "word"
  | .phrase => "string"
  | .remainder => "text"
  | .integer least greatest => displayBounds "integer" toString least greatest
  | .long least greatest => displayBounds "long" toString least greatest
  | .float least greatest =>
      displayBounds "float" (Number.write .plain binary32) least greatest
  | .double least greatest =>
      displayBounds "double" (Number.write .plain binary64) least greatest
  | .boolean => "boolean"

def inspectBounds {α : Type} (name : String) (write : α → String)
    (least greatest : Option α) : String :=
  record name [("min", inspectOption (least.map write)), ("max", inspectOption (greatest.map write))]

/-- This shows a kind together with its bounds, also where there are none. -/
def inspect : Kind → String
  | .word => "String(Word)"
  | .phrase => "String(QuotedOrWord)"
  | .remainder => "String(Greedy)"
  | .integer least greatest => inspectBounds "Integer" toString least greatest
  | .long least greatest => inspectBounds "Long" toString least greatest
  | .float least greatest =>
      inspectBounds "Float" (Number.write .pointed binary32) least greatest
  | .double least greatest =>
      inspectBounds "Double" (Number.write .pointed binary64) least greatest
  | .boolean => "Boolean"

end Kind

end CommandShell.Argument
