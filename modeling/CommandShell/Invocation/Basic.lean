/-
This file represents the ways to start the program and reads them from its arguments.
-/

import CommandShell.Binary.Decimal
import CommandShell.Invocation.Options

namespace CommandShell

open Binary

namespace Invocation

/-- These tasks are done instead of reading lines from the user. -/
inductive Task where
  | execute (words : List String)
  | complete (line : String) (cursor : Option Nat) (asJson : Bool)
  | list (asJson : Bool)
  | version
  /-- This writes a script that completes arguments in a shell. -/
  | script (shell : String)
  | settings (showsAll validates : Bool)
  deriving Repr, DecidableEq

/-- These arguments override the settings. -/
structure Overrides where
  settingsPath : Option String
  senderName : Option String
  operator : Bool
  withoutColor : Bool
  quiet : Bool
  verbose : Bool
  veryVerbose : Bool
  deriving Repr, DecidableEq

end Invocation

structure Invocation where
  overrides : Invocation.Overrides
  task : Option Invocation.Task
  deriving Repr, DecidableEq

namespace Invocation

def version : String := "0.9.0"

/-- This tells a user why the program has not started. -/
def Refusal.message : Refusal → String
  | .helpRequested => "usage: cmdtree [OPTIONS] [COMMAND]"
  | .versionRequested => ""
  | .unknownArgument => "error: an argument is not expected"
  | .unknownSubcommand => "error: there is no such subcommand"
  | .missingValue => "error: an option needs a value"
  | .malformedValue => "error: a value cannot be read"
  | .missingArgument => "error: an argument is missing"
  | .repeatedOption => "error: an option stands twice"
  | .unexpectedValue => "error: an option takes no value"

def help : OptionSpec := ⟨some 'h', "help", .request .helpRequested⟩

def switch (long : String) : OptionSpec := ⟨none, long, .switch⟩

def acceptAny (_ : String) : Option Refusal := none

def refuseEmpty (value : String) : Option Refusal :=
  if value.isEmpty then some .missingValue else none

/-- This reads a number of 64 bits without a sign or with a plus. -/
def readOffset? (text : String) : Option Nat := do
  let digits :=
    match text.toList with
    | '+' :: rest => rest
    | chars => chars
  let value ← readDigits? digits
  if value < Nat.pow 2 64 then some value else none

def refuseOffset (value : String) : Option Refusal :=
  if (readOffset? value).isNone then some .malformedValue else none

def taskNames : List String :=
  ["exec", "complete", "list", "version", "completion", "config"]

def program : Level where
  options := [
    help,
    ⟨some 'V', "version", .request .versionRequested⟩,
    ⟨some 'c', "config", .value refuseEmpty⟩,
    ⟨none, "as", .value acceptAny⟩,
    switch "op",
    switch "no-color",
    ⟨some 'q', "quiet", .switch⟩,
    ⟨some 'v', "verbose", .switch⟩,
    switch "vv"]
  place := none
  subcommands := taskNames ++ ["help"]

def taskLevel : String → Level
  | "exec" => ⟨[help], some ⟨true, true, true⟩, []⟩
  | "complete" =>
      ⟨[help, ⟨none, "cursor", .value refuseOffset⟩, switch "json"], some ⟨false, true, false⟩, []⟩
  | "list" => ⟨[help, switch "json"], none, []⟩
  | "completion" => ⟨[help], some ⟨true, false, false⟩, []⟩
  | "config" => ⟨[help, switch "show", switch "validate"], none, []⟩
  | _ => ⟨[help], none, []⟩

def taskOf (name : String) (given : Given) : Task :=
  match name with
  | "exec" => .execute given.arguments
  | "complete" =>
      .complete (given.arguments.headD "") ((given.value? "cursor").bind readOffset?)
        (given.has "json")
  | "list" => .list (given.has "json")
  | "completion" => .script (given.arguments.headD "")
  | "config" => .settings (given.has "show") (given.has "validate")
  | _ => .version

/-- Help can be had about the program and about each of its subcommands. -/
def readHelp : List String → Refusal
  | [] => .helpRequested
  | [topic] => if program.subcommands.contains topic then .helpRequested else .unknownSubcommand
  | _ => .unknownSubcommand

def overridesOf (given : Given) : Overrides where
  settingsPath := given.value? "config"
  senderName := given.value? "as"
  operator := given.has "op"
  withoutColor := given.has "no-color"
  quiet := given.has "quiet"
  verbose := given.has "verbose"
  veryVerbose := given.has "vv"

def read (arguments : List String) : Except Refusal Invocation := do
  match ← program.readUpTo .start arguments with
  | (progress, none) => return ⟨overridesOf (← program.finish progress), none⟩
  | (_, some ("help", rest)) => .error (readHelp rest)
  | (progress, some (name, rest)) =>
      let given ← (taskLevel name).readAll rest
      return ⟨overridesOf (← program.finish progress), some (taskOf name given)⟩

end Invocation

end CommandShell
