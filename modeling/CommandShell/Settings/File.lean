/-
This file reads settings from documents and writes them. Keys that are not known are left aside, and
settings that a document does not hold are the standard ones.
-/

import CommandShell.Settings.Basic
import CommandShell.Toml.Reader
import CommandShell.Toml.Writer

namespace CommandShell

open Toml

/-- A section is read from a table by its keys, or from an array by the order of its settings. -/
inductive SectionSource where
  | keys (table : Table)
  | places (items : List Value)

namespace SectionSource

/-- A date is a section without any setting. -/
def ofValue? : Value → Option SectionSource
  | .table _ entries => some (.keys entries)
  | .array items => some (.places items)
  | .tables items => some (.places (items.map (Value.table .header)))
  | .moment _ => some (.keys [])
  | _ => none

/-- This finds a section of a document; one that is missing is empty. -/
def find? (document : Table) (name : String) : Option SectionSource :=
  match document.lookup name with
  | some value => ofValue? value
  | none => some (.keys [])

/-- This reads a setting; it must be readable if it is there. -/
def setting {α : Type} (source : SectionSource) (place : Nat) (key : String)
    (read : Value → Option α) (standard : α) : Option α :=
  let found :=
    match source with
    | .keys table => table.lookup key
    | .places items => items[place]?
  match found with
  | some value => read value
  | none => some standard

end SectionSource

namespace Setting

def text? : Value → Option String
  | .string text => some text
  | _ => none

def switch? : Value → Option Bool
  | .boolean value => some value
  | _ => none

/-- This reads a whole number of a number of bits, without a sign. -/
def count? (bits : Nat) : Value → Option Nat
  | .integer value => if 0 ≤ value && value < Nat.pow 2 bits then some value.toNat else none
  | _ => none

def texts? : Value → Option (List String)
  | .array items => items.mapM text?
  | _ => none

/-- A level is named by a text, or by the key of an empty table or array. -/
def level? : Value → Option LogLevel
  | .string text => LogLevel.ofName? text
  | .table _ [(name, .table _ [])] => LogLevel.ofName? name
  | .table _ [(name, .array [])] => LogLevel.ofName? name
  | _ => none

end Setting

namespace Settings

open Setting

def sectionNames : List String := ["logging", "history", "console", "shell"]

/-- Whatever stands in a section that is an array behind the settings is not looked at; all other
numbers must fit. -/
def isUsable (entry : String × Value) : Bool :=
  match entry with
  | (name, .array _) => sectionNames.contains name || entry.2.fits
  | (_, value) => value.fits

def ofDocument? (home : String) (document : Table) : Option Settings := do
  guard (document.all isUsable)
  let standard := standard home
  let source ← SectionSource.find? document "logging"
  let logging : Logging := {
    level := ← source.setting 0 "level" level? standard.logging.level
    timestamps := ← source.setting 1 "timestamps" switch? standard.logging.timestamps
  }
  let source ← SectionSource.find? document "history"
  let history : HistorySettings := {
    maxSize := ← source.setting 0 "max_size" (count? 64) standard.history.maxSize
    filePath := ← source.setting 1 "file_path" text? standard.history.filePath
    persist := ← source.setting 2 "persist" switch? standard.history.persist
  }
  let source ← SectionSource.find? document "console"
  let console : ConsoleSettings := {
    name := ← source.setting 0 "name" text? standard.console.name
    permissions := ← source.setting 1 "permissions" texts? standard.console.permissions
    operator := ← source.setting 2 "operator" switch? standard.console.operator
  }
  let source ← SectionSource.find? document "shell"
  let shell : ShellSettings := {
    prompt := ← source.setting 0 "prompt" text? standard.shell.prompt
    coloredOutput := ← source.setting 1 "color_output" switch? standard.shell.coloredOutput
    showsTooltips := ← source.setting 2 "show_tooltips" switch? standard.shell.showsTooltips
    menuColumns := ← source.setting 3 "menu_columns" (count? 16) standard.shell.menuColumns
  }
  return { logging, history, console, shell }

def read (home content : String) : Except SettingsError Settings :=
  match Toml.read? content with
  | none => .error (.invalidFormat "the file is not a TOML document")
  | some document =>
      match ofDocument? home document with
      | none => .error (.invalidFormat "a setting has a value of another type")
      | some settings => .ok settings

def sections (settings : Settings) : List Section := [
  ⟨"logging", [
    ("level", .string settings.logging.level.name),
    ("timestamps", .boolean settings.logging.timestamps)]⟩,
  ⟨"history", [
    ("max_size", .integer settings.history.maxSize),
    ("file_path", .string settings.history.filePath),
    ("persist", .boolean settings.history.persist)]⟩,
  ⟨"console", [
    ("name", .string settings.console.name),
    ("permissions", .strings settings.console.permissions),
    ("operator", .boolean settings.console.operator)]⟩,
  ⟨"shell", [
    ("prompt", .string settings.shell.prompt),
    ("color_output", .boolean settings.shell.coloredOutput),
    ("show_tooltips", .boolean settings.shell.showsTooltips),
    ("menu_columns", .integer settings.shell.menuColumns)]⟩]

def write (settings : Settings) : String :=
  writeSections settings.sections

end Settings

end CommandShell
