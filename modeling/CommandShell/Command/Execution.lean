/-
This file finds the executor that a line calls.
-/

import CommandShell.Command.Basic
import CommandShell.Node.Walk

namespace CommandShell

open Argument

inductive DispatchError where
  | unknownCommand (label : String)
  | unknownArgument (position : Nat) (line : String) (cause : Option DecodeError)
  | incompleteCommand (command usage : String)
  | permissionDenied (command : String)
  /-- An argument has been decoded apart from a line. -/
  | argument (cause : DecodeError)
  deriving Repr, DecidableEq

/-- A call is an executor with all that it learns. -/
structure Call (ω : Type) where
  executor : Executor ω
  context : Context

def Call.run {ω : Type} (call : Call ω) : ω :=
  call.executor call.context

namespace Command

variable {ω : Type}

def descend (command : Command ω) (sender : Sender) (behindLabel : Cursor) : Descent ω :=
  command.root.descend sender (Walk.start command.root behindLabel) command.root.executor

def resolve (command : Command ω) (sender : Sender) (line : String) :
    Except DispatchError (Call ω) :=
  let start := Cursor.ofLine line
  let label := String.ofList start.word
  if !command.hasLabel label then
    .error (.unknownCommand label)
  else if !command.usableBy sender then
    .error (.permissionDenied command.name)
  else
    let descent := command.descend sender start.skipWord
    match descent.ending with
    | .stuck cause => .error (.unknownArgument descent.cursor.offset line cause)
    | .exhausted =>
        match descent.executor with
        | none => .error (.incompleteCommand command.name (command.usage sender))
        | some executor =>
            .ok ⟨executor, ⟨sender, line, label, descent.arguments, command.heading⟩⟩

def execute (command : Command ω) (sender : Sender) (line : String) : Except DispatchError ω :=
  (command.resolve sender line).map Call.run

end Command

end CommandShell
