/-
This file describes the commands of a shell to its users.
-/

import CommandShell.Registry
import CommandShell.World.Basic

namespace CommandShell

open Argument

/-- The guide lists what can be said about commands without running them. -/
abbrev Guide := List (Draft Unit)

namespace Guide

def usable (guide : Guide) (sender : Sender) : Guide :=
  guide.filter fun draft => draft.usableBy sender

def entries (guide : Guide) (sender : Sender) : List HelpEntry :=
  HelpEntry.sort ((guide.usable sender).map fun draft => draft.helpEntry sender)

def entryLine (entry : HelpEntry) : String :=
  if entry.description.isEmpty then entry.usage else entry.usage ++ " - " ++ entry.description

def list (guide : Guide) (context : Context) : Outcome := do
  let entries := guide.entries context.sender
  Act.replyEach (entries.map entryLine)
  return saturate entries.length

def describe (guide : Guide) (context : Context) : Outcome := do
  let label ← Act.require context .text "command"
  match (guide.find? fun draft => draft.hasLabel label).filter (·.usableBy context.sender) with
  | none => throw ("Unknown command: " ++ label)
  | some draft =>
      let about := if draft.heading.description.isEmpty then [] else [draft.heading.description]
      let lines := draft.executableLines context.sender
      let aliases :=
        if draft.heading.aliases.isEmpty then []
        else ["Aliases: " ++ ", ".intercalate draft.heading.aliases]
      Act.replyEach about
      Act.replyEach (lines.map ("  " ++ ·))
      Act.replyEach aliases
      return saturate lines.length

def names (guide : Guide) : Provider := fun context suggester =>
  (suggester.suggestAll ((guide.usable context.sender).map Draft.name)).batch

def help (guide : Guide) : Draft Outcome :=
  Draft.ofName "help" [
      ((Node.argument "command" .word).suggesting guide.names).executing (guide.describe)]
    |>.executing (guide.list)
    |>.withAlias "?"
    |>.describedAs "List commands or show how to use one"

end Guide

end CommandShell
