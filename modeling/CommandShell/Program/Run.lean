/-
This file says what the program does with its arguments, the files it finds and the settings in
them.
-/

import CommandShell.Invocation.Basic
import CommandShell.Program.Files
import CommandShell.Program.Json
import CommandShell.Program.Script
import CommandShell.Settings.File
import CommandShell.Shell.Session

namespace CommandShell

structure Environment where
  home : String
  /-- Lines can be typed at a terminal only. -/
  hasTerminal : Bool
  files : Files

/-- The program leaves it to these readers to make sense of a file of settings, and of its
arguments. -/
structure Readers where
  settings : (home content : String) → Except SettingsError Settings
  invocation : List String → Except Invocation.Refusal Invocation

/-- Settings stand in TOML documents, arguments are options and tasks. -/
def Readers.standard : Readers := ⟨Settings.read, Invocation.read⟩

/-- This is what the program has written, and why it has failed if it has. -/
structure Performance where
  out : String
  failure : Option Failure
  deriving Repr, DecidableEq

namespace Program

open Invocation Shell Text

/-- Every line ends with a line end. -/
def writeLines (lines : List String) : String :=
  String.join (lines.map (· ++ "\n"))

def settingsPath (environment : Environment) (overrides : Overrides) : String :=
  overrides.settingsPath.getD (Settings.standardPath environment.home)

section

variable (readers : Readers)

def readSettings (environment : Environment) (path : String) : Except Failure Settings :=
  match environment.files.contentAt path with
  | .missing => .error (.settings (.fileNotFound path))
  | .directory | .sealed => .error (.io FileFault.isDirectory.message)
  | .binary => .error (.io FileFault.notText.message)
  | .file content => (readers.settings environment.home content).mapError Failure.settings

/-- A file that is named must be there; the standard one may be missing. -/
def loadSettings (environment : Environment) (overrides : Overrides) : Except Failure Settings :=
  let path := settingsPath environment overrides
  if overrides.settingsPath.isNone && environment.files.contentAt path = .missing then
    .ok (Settings.standard environment.home)
  else
    readSettings readers environment path

def overrideLevel (overrides : Overrides) (level : LogLevel) : LogLevel :=
  if overrides.veryVerbose then .trace
  else if overrides.verbose then .debug
  else if overrides.quiet then .error
  else level

def override (overrides : Overrides) (settings : Settings) : Settings where
  logging := { settings.logging with level := overrideLevel overrides settings.logging.level }
  history := settings.history
  console := { settings.console with
    name := overrides.senderName.getD settings.console.name
    operator := settings.console.operator || overrides.operator }
  shell := { settings.shell with
    coloredOutput := settings.shell.coloredOutput && !overrides.withoutColor }

/-- These are the settings that hold for a run, with the warnings about them. Settings with a fault
are replaced by the standard ones. -/
def effectiveSettings (environment : Environment) (overrides : Overrides) :
    Except Failure (Settings × List String) := do
  let loaded ← loadSettings readers environment overrides
  match loaded.fault? with
  | none => return (override overrides loaded, [])
  | some fault =>
      return (override overrides (Settings.standard environment.home), [
        "Warning: Configuration validation failed: " ++ fault.report,
        "Using default configuration instead."])

def sessionOf (settings : Settings) : Session :=
  ⟨settings.console.sender, settings.shell.coloredOutput, World.standard⟩

def suggestionJson (suggestion : Suggestion) : Json :=
  let tooltip :=
    match suggestion.tooltip with
    | some tooltip => [("tooltip", Json.string tooltip)]
    | none => []
  .object ([("text", .string suggestion.text)] ++ tooltip ++
    [("start", .number suggestion.span.start), ("end", .number suggestion.span.stop)])

def helpJson (entry : HelpEntry) : Json :=
  .object [("name", .string entry.name), ("aliases", .array (entry.aliases.map Json.string)),
    ("description", .string entry.description), ("usage", .string entry.usage)]

/-- The cursor is at the end of the line where nothing else is said. -/
def completions (registry : Registry Outcome) (sender : Sender) (line : String)
    (cursor : Option Nat) (asJson : Bool) : String :=
  let batch := registry.suggestionsAt sender line (cursor.getD (byteLength line.toList))
  if asJson then (Json.array (batch.items.map suggestionJson)).write
  else "\n".intercalate batch.texts

def listing (registry : Registry Outcome) (sender : Sender) (asJson : Bool) : String :=
  let entries := registry.helpEntries sender
  if asJson then (Json.array (entries.map helpJson)).write
  else "\n".intercalate (entries.map fun entry => entry.usage ++ " - " ++ entry.description)

/-- This judges the settings in a file without a run. -/
def validation (environment : Environment) (path : String) : List String :=
  let verdict :=
    if environment.files.contentAt path = .missing then some "❌ Configuration file does not exist"
    else
      match readSettings readers environment path with
      | .error failure => failure.message?.map ("❌ Failed to load configuration: " ++ ·)
      | .ok settings =>
          match settings.fault? with
          | none => some "✅ Configuration is valid"
          | some fault => some ("❌ Configuration validation failed: " ++ fault.report)
  ["Validating configuration file: " ++ path] ++ verdict.toList

def settingsReport (path : String) (settings : Settings) : List String :=
  ["Configuration file: " ++ path, "", "=== Effective Configuration ===", "", settings.write]

def perform (environment : Environment) (overrides : Overrides) (settings : Settings)
    (registry : Registry Outcome) : Task → Performance
  | .execute words =>
      let session := sessionOf settings
      match answer registry session.sender session.world (" ".intercalate words) with
      | (.ok _, after) => ⟨writeLines after.replies, none⟩
      | (.error failure, after) => ⟨writeLines after.replies, some failure⟩
  | .complete line cursor asJson =>
      ⟨writeLines [completions registry settings.console.sender line cursor asJson], none⟩
  | .list asJson => ⟨writeLines [listing registry settings.console.sender asJson], none⟩
  | .version => ⟨writeLines ["cmdtree version " ++ version], none⟩
  | .script shell =>
      match script shell with
      | .ok text => ⟨text, none⟩
      | .error error => ⟨"", some (.settings error)⟩
  | .settings showsAll validates =>
      let path := settingsPath environment overrides
      ⟨writeLines ((if validates then validation readers environment path else []) ++
        (if showsAll then settingsReport path settings else [])), none⟩

/-- This greets a user who types lines. -/
def banner (overrides : Overrides) (settings : Settings) (registry : Registry Outcome) : String :=
  if overrides.quiet then ""
  else
    writeLines [
      "cmdtree " ++ version,
      "Running as '" ++ settings.console.name ++ "' with " ++
        toString registry.commands.length ++
        " commands. Type 'help' for a list, 'exit' to leave."]

def farewell (overrides : Overrides) : String :=
  if overrides.quiet then "" else writeLines ["Goodbye!"]

/-- The lines of a session are kept in a file, which is made if it is missing. -/
def historyFileFault? (environment : Environment) (history : HistorySettings) : Option FileFault :=
  match environment.files.makeFile history.filePath with
  | .error fault => if history.persist then some fault else none
  | .ok () => none

/-- One more line must fit in memory than the history holds. -/
def historyFault? (environment : Environment) (history : HistorySettings) : Option String :=
  if history.maxSize + 1 = Nat.pow 2 64 then
    some "error in Reedline history: History capacity too large to be addressed safely"
  else
    (historyFileFault? environment history).map ("I/O error: " ++ ·.message)

def historyFailure? (environment : Environment) (settings : Settings) : Option Failure :=
  (historyFault? environment settings.history).map fun fault =>
    .general ("Line editor error: " ++ fault)

/-- A start of the program does a task, or greets a user who types lines. -/
inductive Start where
  | refused (failure : Failure)
  | performed (settings : Settings) (warnings : List String) (performance : Performance)
  | greeted (settings : Settings) (warnings : List String) (greeting : String)
  deriving Repr, DecidableEq

def start (environment : Environment) (invocation : Invocation) : Start :=
  let overrides := invocation.overrides
  match effectiveSettings readers environment overrides, World.standard.registry with
  | .error failure, _ => .refused failure
  | _, .error error => .refused (.build error)
  | .ok (settings, warnings), .ok registry =>
      match invocation.task with
      | some task =>
          .performed settings warnings
            (perform readers environment overrides settings registry task)
      | none => .greeted settings warnings (banner overrides settings registry)

/-- Nothing can be typed if the history cannot be kept, or without a terminal. -/
def typingFailure? (environment : Environment) (settings : Settings) : Option Failure :=
  (historyFailure? environment settings).or
    (if environment.hasTerminal then none
    else some (.io "No such device or address (os error 6)"))

/-- This is all that a run writes if no lines are typed. -/
structure Transcript where
  out : String
  err : List String
  exitCode : Nat
  deriving Repr, DecidableEq

/-- A failure that cannot be told breaks the run off. -/
def Transcript.of (out : String) (warnings : List String) : Option Failure → Transcript
  | none => ⟨out, warnings, 0⟩
  | some failure =>
      match failure.message? with
      | some message => ⟨out, warnings ++ ["Error: " ++ message], 1⟩
      | none => ⟨out, warnings, 101⟩

def run (environment : Environment) (invocation : Invocation) : Transcript :=
  match start readers environment invocation with
  | .refused failure => .of "" [] (some failure)
  | .performed _ warnings performance => .of performance.out warnings performance.failure
  | .greeted settings warnings greeting =>
      match typingFailure? environment settings with
      | some failure => .of greeting warnings (some failure)
      | none => .of (greeting ++ farewell invocation.overrides) warnings none

/-- Refused arguments start nothing; what they ask for is shown instead. -/
def refuse (refusal : Refusal) : Transcript :=
  match refusal with
  | .versionRequested => ⟨writeLines ["cmdtree " ++ version], [], refusal.exitCode⟩
  | _ => ⟨"", [], refusal.exitCode⟩

def respond (environment : Environment) (arguments : List String) : Transcript :=
  match readers.invocation arguments with
  | .error refusal => refuse refusal
  | .ok invocation => run readers environment invocation

end

end Program

end CommandShell
