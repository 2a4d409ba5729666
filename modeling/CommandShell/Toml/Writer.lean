/-
This file writes documents of named sections.
-/

import CommandShell.Toml.Quoting

namespace CommandShell.Toml

/-- These are the values that sections hold. -/
inductive Entry where
  | string (text : String)
  | integer (value : Nat)
  | boolean (value : Bool)
  | strings (texts : List String)
  deriving Repr, DecidableEq

/-- Lists of several texts have a line for each. -/
def Entry.write : Entry → String
  | .string text => writeString text
  | .integer value => toString value
  | .boolean value => toString value
  | .strings [] => "[]"
  | .strings [text] => "[" ++ writeString text ++ "]"
  | .strings texts =>
      "[\n" ++ String.join (texts.map fun text => "    " ++ writeString text ++ ",\n") ++ "]"

structure Section where
  name : String
  entries : List (String × Entry)
  deriving Repr, DecidableEq

def Section.write (part : Section) : String :=
  "[" ++ part.name ++ "]\n" ++
    String.join (part.entries.map fun entry => entry.1 ++ " = " ++ entry.2.write ++ "\n")

/-- An empty line stands between sections. -/
def writeSections (sections : List Section) : String :=
  "\n".intercalate (sections.map Section.write)

end CommandShell.Toml
