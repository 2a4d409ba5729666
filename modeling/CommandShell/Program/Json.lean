/-
This file writes JSON over several lines.
-/

namespace CommandShell.Program

/-- These are the values that the program shows. -/
inductive Json where
  | string (text : String)
  | number (value : Nat)
  | array (items : List Json)
  | object (fields : List (String × Json))

namespace Json

def escape (char : Char) : List Char :=
  if char = '\x22' then ['\\', '\x22']
  else if char = '\\' then ['\\', '\\']
  else if char = '\n' then ['\\', 'n']
  else if char = '\r' then ['\\', 'r']
  else if char = '\t' then ['\\', 't']
  else if char = '\x08' then ['\\', 'b']
  else if char = '\x0c' then ['\\', 'f']
  else if char.toNat < 0x20 then
    let digits := Nat.toDigits 16 char.toNat
    '\\' :: 'u' :: List.replicate (4 - digits.length) '0' ++ digits
  else [char]

def writeString (text : String) : String :=
  "\"" ++ String.ofList (text.toList.flatMap escape) ++ "\""

def indent (depth : Nat) : String :=
  String.ofList (List.replicate (2 * depth) ' ')

/-- This puts parts on lines of their own between two marks. -/
def enclose (opening closing : String) (depth : Nat) (parts : List String) : String :=
  if parts.isEmpty then opening ++ closing
  else
    let lines := parts.map fun part => "\n" ++ indent (depth + 1) ++ part
    opening ++ ",".intercalate lines ++ "\n" ++ indent depth ++ closing

mutual

def writeAt (depth : Nat) : Json → String
  | .string text => writeString text
  | .number value => toString value
  | .array items => enclose "[" "]" depth (writeItems (depth + 1) items)
  | .object fields => enclose "\x7b" "\x7d" depth (writeFields (depth + 1) fields)

def writeItems (depth : Nat) : List Json → List String
  | [] => []
  | item :: rest => item.writeAt depth :: writeItems depth rest

def writeFields (depth : Nat) : List (String × Json) → List String
  | [] => []
  | (key, value) :: rest =>
      (writeString key ++ ": " ++ value.writeAt depth) :: writeFields depth rest

end

def write (json : Json) : String :=
  json.writeAt 0

end Json

end CommandShell.Program
