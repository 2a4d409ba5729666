/-
This file runs the program on the files and the lines that a user has.
-/

import CommandShell.Program.Run
import CommandShell.Shell.Completeness
import CommandShell.Shell.Prompt

namespace CommandShell.Program

open Invocation Shell

def lookAt (path : String) : IO PathContent := do
  try
    if ← (← IO.FS.realPath path).isDir then return .directory
    return .file (← IO.FS.readFile path)
  catch
    | .noFileOrDirectory .. | .inappropriateType .. => return .missing
    | _ => return .binary

/-- This looks at all that stands on the way to a path. -/
def lookAlong (path : String) : IO Files := do
  return .ofPaths (← (Place.leads path).mapM fun lead => return (lead, ← lookAt lead))

/-- The settings are looked at, and what stands where the history is kept. -/
def environmentOf (overrides : Overrides) : IO Environment := do
  let home := (← IO.getEnv "HOME").getD "."
  let hasTerminal ← (← IO.getStdin).isTty
  let files ← lookAlong (settingsPath ⟨home, hasTerminal, []⟩ overrides)
  let environment : Environment := ⟨home, hasTerminal, files⟩
  match effectiveSettings .standard environment overrides with
  | .error _ => return environment
  | .ok (settings, _) =>
      return { environment with files := files ++ (← lookAlong settings.history.filePath) }

def showTranscript (transcript : Transcript) : IO UInt32 := do
  IO.print transcript.out
  for line in transcript.err do
    IO.eprintln line
  return transcript.exitCode.toUInt32

/-- An open quotation is continued on the next line. -/
partial def readEntry (input : IO.FS.Stream) (prompt : Prompt) (typed : String) :
    IO (Option String) := do
  IO.eprint (if typed.isEmpty then prompt.left ++ prompt.indicator else prompt.continuation)
  let line ← input.getLine
  let entry := typed ++ line
  if line.isEmpty then return none
  else if quotesClosed entry then return some entry
  else readEntry input prompt entry

partial def converse (input : IO.FS.Stream) (prompt : Prompt) (session : Session) : IO Unit := do
  if let some entry ← readEntry input prompt "" then
    let (outcome, replies, session) := session.handle entry
    for reply in replies do
      IO.println reply
    match outcome with
    | .exit => return
    | .failed failure =>
        if let some message := session.showFailure? failure then
          IO.eprintln message
    | _ => pure ()
    converse input prompt session

def promptOf (settings : Settings) : Prompt :=
  ⟨settings.console.name, settings.shell.prompt, settings.console.operator,
    settings.shell.coloredOutput⟩

def greet (settings : Settings) (greeting : String) : IO Unit := do
  IO.print greeting
  converse (← IO.getStdin) (promptOf settings) (sessionOf settings)

end CommandShell.Program

open CommandShell Program

def main (arguments : List String) : IO UInt32 := do
  match Invocation.read arguments with
  | .error refusal =>
      unless refusal.message.isEmpty do
        IO.eprintln refusal.message
      showTranscript (refuse refusal)
  | .ok invocation =>
      let environment ← environmentOf invocation.overrides
      match start .standard environment invocation with
      | .greeted settings warnings greeting =>
          match typingFailure? environment settings with
          | some _ => showTranscript (run .standard environment invocation)
          | none =>
              for warning in warnings do
                IO.eprintln warning
              greet settings greeting
              IO.print (farewell invocation.overrides)
              return 0
      | _ => showTranscript (run .standard environment invocation)
