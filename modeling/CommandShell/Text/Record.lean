/-
This file lays out values with named parts on one line.
-/

import CommandShell.Text.Quoted

namespace CommandShell.Text

def bracketed (items : List String) : String :=
  "[" ++ ", ".intercalate items ++ "]"

def braced (items : List String) : String :=
  "\x7b" ++ ", ".intercalate items ++ "\x7d"

/-- This shows a record by its name and its fields in order. -/
def record (name : String) (fields : List (String × String)) : String :=
  name ++ " \x7b " ++ ", ".intercalate (fields.map fun field => field.1 ++ ": " ++ field.2) ++
    " \x7d"

def inspectOption (value : Option String) : String :=
  match value with
  | some text => "Some(" ++ text ++ ")"
  | none => "None"

end CommandShell.Text
