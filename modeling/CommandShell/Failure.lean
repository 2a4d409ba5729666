/-
This file collects the failures of the shell and tells them to the sender.
-/

import CommandShell.Command.Execution

namespace CommandShell

open Argument Text

/-- This is the number of characters shown before the place of a fault. -/
def shownBefore : Nat := 10

/-- This shows the end of a line up to a place in it. No character may lie across the place. -/
def pointAt? (line : String) (position : Nat) : Option String := do
  let (before, _) ← cutAt? (min position (byteLength line.toList)) line.toList
  let skipped := before.length - shownBefore
  let shown := String.ofList (before.drop skipped) ++ "<--[HERE]"
  return if 0 < skipped then "..." ++ shown else shown

/-- An error has no message if its place cannot be shown. -/
def DispatchError.message? : DispatchError → Option String
  | .unknownCommand label => some ("Unknown command: " ++ label)
  | .unknownArgument position line cause =>
      let fault :=
        match cause with
        | some error => error.fault.message
        | none => "Incorrect argument for command"
      (pointAt? line position).map (fault ++ " at position " ++ toString position ++ ": " ++ ·)
  | .incompleteCommand command usage =>
      some ("Incomplete command '" ++ command ++ "', usage: " ++ usage)
  | .permissionDenied command => some ("Permission denied: " ++ command)
  | .argument cause => some cause.message

inductive SettingsError where
  | fileNotFound (path : String)
  | invalidFormat (detail : String)
  | invalidValue (field value : String)
  deriving Repr, DecidableEq

def SettingsError.message : SettingsError → String
  | .fileNotFound path => "Config file not found: " ++ path
  | .invalidFormat detail => "Invalid config format: " ++ detail
  | .invalidValue field value => "Invalid value '" ++ value ++ "' for field '" ++ field ++ "'"

def SettingsError.report (error : SettingsError) : String :=
  "Configuration error: " ++ error.message

inductive Failure where
  | dispatch (error : DispatchError)
  /-- An executor has failed. -/
  | command (message : String)
  | build (error : BuildError)
  | settings (error : SettingsError)
  | io (message : String)
  | general (message : String)
  deriving Repr, DecidableEq

namespace Failure

/-- This is the message of the cause of a failure. -/
def source? : Failure → Option String
  | .dispatch error => error.message?
  | .command message => some message
  | .build error => some error.message
  | .settings error => some error.message
  | .io message => some message
  | .general _ => none

def message? : Failure → Option String
  | .dispatch error => error.message?
  | .command message => some message
  | .build error => some ("Build error: " ++ error.message)
  | .settings error => some error.report
  | .io message => some ("I/O error: " ++ message)
  | .general message => some message

end Failure

end CommandShell
