/-
This file shows commands for those who write them.
-/

import CommandShell.Command.Basic
import CommandShell.Node.Inspection

namespace CommandShell

open Text

def Draft.inspect {ω : Type} (draft : Draft ω) : String :=
  record "Command" [
    ("name", Quoted.quote draft.name),
    ("aliases", bracketed (draft.heading.aliases.map Quoted.quote)),
    ("permission", inspectOption (draft.heading.permission.map Quoted.quote)),
    ("description", Quoted.quote draft.heading.description),
    ("root", draft.root.inspect)]

end CommandShell
