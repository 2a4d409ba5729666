/-
This file runs the lines that a sender types one after another.
-/

import CommandShell.Failure
import CommandShell.Shell.Paint
import CommandShell.World.Commands

namespace CommandShell.Shell

open Text

structure Session where
  sender : Sender
  colored : Bool
  world : World
  deriving Repr, DecidableEq

inductive LineOutcome where
  | empty
  | exit
  | executed (code : Int)
  | failed (failure : Failure)
  deriving Repr, DecidableEq

def LineOutcome.ofResult : Except Failure Int → LineOutcome
  | .ok code => .executed code
  | .error failure => .failed failure

/-- This is what a line that is executed does. -/
structure Effect where
  replies : List String
  code : Int
  world : World
  deriving Repr, DecidableEq

/-- These lines end a session. -/
def exitWords : List String := ["exit", "quit"]

/-- A line gets a number or a failure. What its command has done holds in both cases. -/
def answer (registry : Registry Outcome) (sender : Sender) (world : World) (line : String) :
    Except Failure Int × Progress :=
  let start : Progress := ⟨[], world⟩
  match registry.execute sender line with
  | .error error => (.error (.dispatch error), start)
  | .ok outcome =>
      let performed := outcome.perform start
      (performed.1.mapError .command, performed.2)

namespace Session

def answer (session : Session) (line : String) : Except Failure Int × Progress :=
  match session.world.registry with
  | .error error => (.error (.build error), ⟨[], session.world⟩)
  | .ok registry => Shell.answer registry session.sender session.world line

/-- This is what the command of a line does, if it ends well. -/
def execute (session : Session) (line : String) : Except Failure Effect :=
  match session.answer line with
  | (.ok code, after) => .ok ⟨after.replies, code, after.world⟩
  | (.error failure, _) => .error failure

def handle (session : Session) (line : String) : LineOutcome × List String × Session :=
  let trimmed := String.ofList (trim line.toList)
  if trimmed.isEmpty then
    (.empty, [], session)
  else if exitWords.contains trimmed then
    (.exit, [], session)
  else
    let (result, after) := session.answer trimmed
    (.ofResult result, after.replies, { session with world := after.world })

def showFailure? (session : Session) (failure : Failure) : Option String :=
  failure.message?.map fun message => Paint.red.applyIf session.colored ("Error: " ++ message)

end Session

end CommandShell.Shell
