/-
This file holds the standard commands of the shell.
-/

import CommandShell.World.Guide
import CommandShell.World.Players

namespace CommandShell.World

open Argument

def sayMessage (context : Context) : Outcome := do
  let message ← Act.require context .text "message"
  Act.reply message
  return saturate message.length

def echo : Draft Outcome :=
  Draft.ofName "echo" [(Node.argument "message" .remainder).executing sayMessage]
    |>.withAlias "say"
    |>.describedAs "Print a message"

def switchName (value : Bool) : String :=
  if value then "on" else "off"

def switchCode (value : Bool) : Int :=
  if value then 1 else 0

def showFlag (context : Context) : Outcome := do
  let flag ← Act.require context .text "flag"
  let value ← Act.readFlag flag
  Act.reply (flag ++ " is " ++ switchName value)
  return switchCode value

def switchFlag (context : Context) : Outcome := do
  let flag ← Act.require context .text "flag"
  let state ← Act.require context .boolean "state"
  Act.setFlag flag state
  Act.reply (flag ++ " is now " ++ switchName state)
  return switchCode state

def toggle : Draft Outcome :=
  let known := Flags.known.map fun flag => (flag.1, some flag.2)
  let state := (Node.argument "state" .boolean).executing switchFlag
  let flag := (Node.argument "flag" .word).suggesting (.fixed known)
    |>.executing showFlag
    |>.followedBy [state]
  Draft.ofName "toggle" [flag]
    |>.permittedBy "cmdtree.toggle"
    |>.describedAs "Show or set a world flag"

def drafts (guide : Guide) (world : World) : List (Draft Outcome) :=
  [guide.help, echo, give world, gamemode world, teleport world, rosterCommand world, toggle]

/-- What the guide says about the commands does not depend on the guide or the world. -/
def guide : Guide :=
  (drafts [] standard).map (Draft.map fun _ => ())

def registry (world : World) : Except BuildError (Registry Outcome) :=
  Registry.ofDrafts (drafts guide world)

end CommandShell.World
