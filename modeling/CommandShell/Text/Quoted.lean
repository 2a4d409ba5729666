/-
This file shows texts in double quotes, so that every character of the result has a shape of its own.
-/

import CommandShell.Text.Table.Escaped

namespace CommandShell.Text.Quoted

/-- This is the hexadecimal code point of a character, without leading zeros. -/
def hexadecimal (char : Char) : List Char :=
  Nat.toDigits 16 char.toNat

def escape (char : Char) : List Char :=
  if char = '\x00' then ['\\', '0']
  else if char = '\t' then ['\\', 't']
  else if char = '\r' then ['\\', 'r']
  else if char = '\n' then ['\\', 'n']
  else if char = '\x22' then ['\\', '\x22']
  else if char = '\\' then ['\\', '\\']
  else if shapeless.contains char then
    ['\\', 'u', '\x7b'] ++ hexadecimal char ++ ['\x7d']
  else [char]

def encode (text : List Char) : List Char :=
  '\x22' :: text.flatMap escape ++ ['\x22']

def quote (text : String) : String :=
  String.ofList (encode text.toList)

end CommandShell.Text.Quoted
