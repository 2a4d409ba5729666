/-
This file suggests how to continue the line of a command.
-/

import CommandShell.Command.Basic
import CommandShell.Node.Walk

namespace CommandShell

open Text

/-- This is the part of a line before the greatest boundary that is at most an offset. -/
def lineBefore (line : String) (offset : Nat) : String :=
  String.ofList (cutDown offset line.toList).1

namespace Command

variable {ω : Type}

def replay (command : Command ω) (sender : Sender) (behindLabel : Cursor) : Walk ω :=
  command.root.replay sender (Walk.start command.root behindLabel)

def suggestions (command : Command ω) (sender : Sender) (line : String) : Batch :=
  let start := Cursor.ofLine line
  let label := String.ofList start.word
  let nothing := Batch.empty (byteLength line.toList)
  if !command.usableBy sender then
    nothing
  else if !start.skipWord.atBlank then
    ((Suggester.ofLine line 0).suggestAll command.labels).batch
  else if !command.hasLabel label then
    nothing
  else
    let walk := command.replay sender start.skipWord
    let context : Context := ⟨sender, line, label, walk.arguments, command.heading⟩
    let suggester := Suggester.ofLine line walk.cursor.offset
    match (walk.lastNode command.root).visibleChildren sender with
    | [] => Batch.empty walk.cursor.offset
    | children => Batch.merge (children.map fun child => child.segment.suggestions context suggester)

def suggestionsAt (command : Command ω) (sender : Sender) (line : String) (offset : Nat) : Batch :=
  command.suggestions sender (lineBefore line offset)

end Command

end CommandShell
