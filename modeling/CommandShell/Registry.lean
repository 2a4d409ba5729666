/-
This file holds the commands that lines can name.
-/

import CommandShell.Command.Completion
import CommandShell.Command.Execution

namespace CommandShell

open Text

/-- The index gives the place of the command that each label names. -/
structure Registry (ω : Type) where
  commands : List (Command ω)
  index : List (String × Nat)

/-- This is what a sender can learn about a command. -/
structure HelpEntry where
  name : String
  aliases : List String
  description : String
  usage : String
  deriving Repr, DecidableEq

namespace HelpEntry

def sort (entries : List HelpEntry) : List HelpEntry :=
  entries.mergeSort fun left right => left.name ≤ right.name

end HelpEntry

def Draft.helpEntry {ω : Type} (draft : Draft ω) (sender : Sender) : HelpEntry where
  name := draft.name
  aliases := draft.heading.aliases
  description := draft.heading.description
  usage := draft.usage sender

namespace Registry

variable {ω : Type}

def empty : Registry ω := ⟨[], []⟩

/-- A label leads to a place from now on, whatever it has led to before. -/
def enter (place : Nat) (label : String) : List (String × Nat) → List (String × Nat)
  | [] => [(label, place)]
  | entry :: rest =>
      if entry.1 = label then (label, place) :: rest else entry :: enter place label rest

/-- No label may name two commands. The registry that is left is given in any case. -/
def register (registry : Registry ω) (command : Command ω) :
    Except BuildError Unit × Registry ω :=
  match command.labels.find? fun label => (registry.index.lookup label).isSome with
  | some label => (.error (.duplicateLabel label), registry)
  | none =>
      let place := registry.commands.length
      (.ok (), {
        commands := registry.commands ++ [command]
        index := command.labels.foldl (fun index label => enter place label index) registry.index
      })

/-- This goes on only with commands that are registered. -/
def accept (registry : Registry ω) (command : Command ω) : Except BuildError (Registry ω) :=
  match registry.register command with
  | (.ok (), after) => .ok after
  | (.error error, _) => .error error

def ofDrafts (drafts : List (Draft ω)) : Except BuildError (Registry ω) :=
  drafts.foldlM (fun registry draft => do registry.accept (← draft.build)) empty

def find? (registry : Registry ω) (label : String) : Option (Command ω) :=
  (registry.index.lookup label).bind (registry.commands[·]?)

def resolve (registry : Registry ω) (sender : Sender) (line : String) :
    Except DispatchError (Call ω) :=
  let label := String.ofList (Cursor.ofLine line).word
  match registry.find? label with
  | none => .error (.unknownCommand label)
  | some command => command.resolve sender line

def execute (registry : Registry ω) (sender : Sender) (line : String) : Except DispatchError ω :=
  (registry.resolve sender line).map Call.run

def usableCommands (registry : Registry ω) (sender : Sender) : List (Command ω) :=
  registry.commands.filter fun command => command.usableBy sender

/-- While the first word is typed all labels continue it; afterwards the command it names does. -/
def suggestions (registry : Registry ω) (sender : Sender) (line : String) : Batch :=
  let start := Cursor.ofLine line
  if !start.skipWord.atBlank then
    let labels := (registry.usableCommands sender).flatMap fun command => command.labels
    ((Suggester.ofLine line 0).suggestAll labels).batch
  else
    match registry.find? (String.ofList start.word) with
    | some command => command.suggestions sender line
    | none => Batch.empty (byteLength line.toList)

def suggestionsAt (registry : Registry ω) (sender : Sender) (line : String) (offset : Nat) :
    Batch :=
  registry.suggestions sender (lineBefore line offset)

def helpEntries (registry : Registry ω) (sender : Sender) : List HelpEntry :=
  HelpEntry.sort ((registry.usableCommands sender).map fun command => command.helpEntry sender)

end Registry

end CommandShell
