/-
This file holds the commands that act on players.
-/

import CommandShell.Binary.Fixed
import CommandShell.World.Basic

namespace CommandShell.World

open Argument Binary

def itemNames : List String :=
  ["bread", "diamond", "gold_ingot", "iron_ingot", "oak_log", "stone"]

def giveItems (context : Context) (count : Int) : Outcome := do
  let target ← Act.require context .text "target"
  let item ← Act.require context .text "item"
  Act.requireOnline target
  Act.reply ("Gave " ++ toString count ++ " [" ++ item ++ "] to " ++ target)
  return count

def giveCount (context : Context) : Outcome := do
  let count ← Act.require context .integer "count"
  giveItems context count

def give (world : World) : Draft Outcome :=
  let count := (Node.argument "count" (.integer (some 1) (some 64))).executing giveCount
  let item := (Node.argument "item" .word).suggesting (.fixed (itemNames.map (·, none)))
    |>.executing (giveItems · 1)
    |>.followedBy [count]
  let target := (Node.argument "target" .word).suggesting world.players
    |>.followedBy [item]
  Draft.ofName "give" [target]
    |>.permittedBy "cmdtree.give"
    |>.describedAs "Give an item to an online player"

/-- The number of a mode is the result of choosing it. -/
def gameModes : List (String × Int) :=
  [("survival", 0), ("creative", 1), ("adventure", 2), ("spectator", 3)]

def setOwnMode (mode : String × Int) : Outcome := do
  Act.reply ("Set own game mode to " ++ mode.1)
  return mode.2

def setMode (mode : String × Int) (context : Context) : Outcome := do
  let target ← Act.require context .text "target"
  Act.requireOnline target
  Act.reply ("Set " ++ target ++ "'s game mode to " ++ mode.1)
  return mode.2

def gamemode (world : World) : Draft Outcome :=
  let choice (mode : String × Int) : Node Outcome :=
    let target := (Node.argument "target" .word).suggesting world.players
      |>.executing (setMode mode)
    (Node.literal mode.1).executing (fun _ => setOwnMode mode)
      |>.followedBy [target]
  Draft.ofName "gamemode" (gameModes.map choice)
    |>.withAlias "gm"
    |>.permittedBy "cmdtree.gamemode"
    |>.describedAs "Change a game mode"

def teleportTo (context : Context) (who : String) : Outcome := do
  let x ← Act.require context .double "x"
  let y ← Act.require context .double "y"
  let z ← Act.require context .double "z"
  let place := ", ".intercalate ([x, y, z].map (Number.writeFixed 2))
  Act.reply ("Teleported " ++ who ++ " to " ++ place)
  return 1

def teleportTarget (context : Context) : Outcome := do
  let target ← Act.require context .text "target"
  Act.requireOnline target
  teleportTo context target

/-- The coordinates of a place end with the executor. -/
def coordinates (executor : Executor Outcome) : Node Outcome :=
  let axis (name : String) : Node Outcome := Node.argument name (.double none none)
  (axis "x").followedBy [(axis "y").followedBy [(axis "z").executing executor]]

def teleport (world : World) : Draft Outcome :=
  let target := (Node.argument "target" .word).suggesting world.players
    |>.followedBy [coordinates teleportTarget]
  Draft.ofName "teleport" [
      coordinates fun context => teleportTo context context.sender.name, target]
    |>.withAlias "tp"
    |>.permittedBy "cmdtree.teleport"
    |>.describedAs "Move a player to a position"

def rosterReport (names : List String) : String :=
  if names.isEmpty then "Nobody is online"
  else "Online (" ++ toString names.length ++ "): " ++ ", ".intercalate names

def listRoster : Outcome := do
  let roster ← Act.readRoster
  Act.reply (rosterReport roster.names)
  return saturate roster.names.length

def joinRoster (context : Context) : Outcome := do
  let name ← Act.require context .text "name"
  if ← Act.changeRoster (·.add name) then
    Act.reply (name ++ " joined")
    return 1
  else throw (name ++ " is already online")

def leaveRoster (context : Context) : Outcome := do
  let name ← Act.require context .text "name"
  if ← Act.changeRoster (·.remove name) then
    Act.reply (name ++ " left")
    return 1
  else throw (name ++ " is not online")

def rosterCommand (world : World) : Draft Outcome :=
  let joining := (Node.argument "name" .word).executing joinRoster
  let leaving := (Node.argument "name" .word).suggesting world.players
    |>.executing leaveRoster
  Draft.ofName "roster" [
      (Node.literal "list").executing (fun _ => listRoster),
      (Node.literal "add").followedBy [joining],
      (Node.literal "remove").followedBy [leaving]]
    |>.permittedBy "cmdtree.roster"
    |>.describedAs "Manage the online roster"

end CommandShell.World
