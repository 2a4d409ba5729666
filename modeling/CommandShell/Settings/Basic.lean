/-
This file holds the settings of the shell.
-/

import CommandShell.Failure
import CommandShell.Text.Blank

namespace CommandShell

open Text

inductive LogLevel where
  | error
  | warn
  | info
  | debug
  | trace
  deriving Repr, DecidableEq

namespace LogLevel

def name : LogLevel → String
  | .error => "error"
  | .warn => "warn"
  | .info => "info"
  | .debug => "debug"
  | .trace => "trace"

def all : List LogLevel := [.error, .warn, .info, .debug, .trace]

def ofName? (name : String) : Option LogLevel :=
  all.find? fun level => level.name == name

end LogLevel

structure Logging where
  level : LogLevel
  timestamps : Bool
  deriving Repr, DecidableEq

structure HistorySettings where
  maxSize : Nat
  filePath : String
  persist : Bool
  deriving Repr, DecidableEq

structure ConsoleSettings where
  name : String
  permissions : List String
  operator : Bool
  deriving Repr, DecidableEq

structure ShellSettings where
  prompt : String
  coloredOutput : Bool
  showsTooltips : Bool
  menuColumns : Nat
  deriving Repr, DecidableEq

structure Settings where
  logging : Logging
  history : HistorySettings
  console : ConsoleSettings
  shell : ShellSettings
  deriving Repr, DecidableEq

def ConsoleSettings.sender (console : ConsoleSettings) : Sender :=
  ⟨console.name, console.permissions, console.operator⟩

namespace Settings

/-- These settings hold where nothing else is said. The history is kept in the home directory. -/
def standard (home : String) : Settings where
  logging := ⟨.warn, false⟩
  history := ⟨1000, home ++ "/.cmdtree_history", true⟩
  console := ⟨"console", ["cmdtree.*"], false⟩
  shell := ⟨"cmdtree", true, true, 4⟩

/-- The settings are looked for in this file where no other is named. -/
def standardPath (home : String) : String :=
  home ++ "/.cmdtree/config.toml"

/-- This is the first setting that the shell cannot work with. -/
def fault? (settings : Settings) : Option SettingsError :=
  if settings.history.maxSize = 0 then
    some (.invalidValue "history.max_size" "0")
  else if (trim settings.console.name.toList).isEmpty then
    some (.invalidValue "console.name" settings.console.name)
  else
    match settings.console.permissions.find? fun permission => !isWord permission.toList with
    | some permission => some (.invalidValue "console.permissions" permission)
    | none =>
        if settings.shell.menuColumns = 0 then some (.invalidValue "shell.menu_columns" "0")
        else none

end Settings

end CommandShell
