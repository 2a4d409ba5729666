/-
This file marks the label of a line by whether it names a command of the sender.
-/

import CommandShell.Registry

namespace CommandShell.Shell

open Text

inductive Highlight where
  | plain
  | known
  | unknown
  deriving Repr, DecidableEq

def labelHighlight {ω : Type} (registry : Registry ω) (sender : Sender) (label : String) :
    Highlight :=
  if (registry.find? label).any fun command => command.usableBy sender then .known else .unknown

/-- These are the parts of a line that are not empty. Without highlights the line has one part. -/
def highlight {ω : Type} (registry : Registry ω) (sender : Sender) (enabled : Bool)
    (line : String) : List (Highlight × String) :=
  if enabled then
    let blanks := line.toList.takeWhile isBlank
    let solid := line.toList.dropWhile isBlank
    let label := String.ofList (solid.takeWhile isSolid)
    [(.plain, String.ofList blanks), (labelHighlight registry sender label, label),
      (.plain, String.ofList (solid.dropWhile isSolid))].filter fun part => !part.2.isEmpty
  else
    [(.plain, line)]

end CommandShell.Shell
