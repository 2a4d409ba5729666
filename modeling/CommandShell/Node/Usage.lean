/-
This file describes trees as the senders of lines see them.
-/

import CommandShell.Node.Basic

namespace CommandShell.Node

variable {ω : Type}

/-- The parts that may follow a node are optional if a line may end there. A single one is followed
by its own continuation, and several are alternatives. -/
def joinUsages (optional : Bool) : List (String × Option String) → Option String
  | [] => none
  | [(usage, rest?)] =>
      let segment :=
        match rest? with
        | some rest => usage ++ " " ++ rest
        | none => usage
      some (if optional then "[" ++ segment ++ "]" else segment)
  | usages =>
      let segment := "(" ++ "|".intercalate (usages.map Prod.fst) ++ ")"
      some (if optional then "[" ++ segment ++ "]" else segment)

mutual

/-- This describes what may follow a node. -/
def continuation? (sender : Sender) : Node ω → Option String
  | .node _ executor _ children => joinUsages executor.isSome (usagesAmong sender children)

def usagesAmong (sender : Sender) : List (Node ω) → List (String × Option String)
  | [] => []
  | child :: rest =>
      if child.visibleTo sender then
        (child.segment.usage, child.continuation? sender) :: usagesAmong sender rest
      else
        usagesAmong sender rest

end

mutual

/-- These are the lines that may end at a node or behind it. -/
def executableLines (sender : Sender) (lead : String) : Node ω → List String
  | .node _ executor _ children =>
      (if executor.isSome then [lead] else []) ++ executableLinesAmong sender lead children

def executableLinesAmong (sender : Sender) (lead : String) : List (Node ω) → List String
  | [] => []
  | child :: rest =>
      (if child.visibleTo sender then
        child.executableLines sender (lead ++ " " ++ child.segment.usage)
      else
        []) ++ executableLinesAmong sender lead rest

end

end CommandShell.Node
