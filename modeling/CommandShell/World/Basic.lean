/-
This file holds the world that the standard commands change.
-/

import CommandShell.Command.Basic
import CommandShell.World.Flags
import CommandShell.World.Roster

namespace CommandShell

open Argument

structure World where
  roster : Roster
  flags : Flags
  deriving Repr, DecidableEq

namespace World

def ofPlayers (names : List String) : World :=
  ⟨Roster.ofList names, Flags.empty⟩

def standard : World :=
  ⟨Roster.standard, Flags.empty⟩

/-- This suggests the players that are online. -/
def players (world : World) : Provider := fun _ suggester =>
  (suggester.suggestAll world.roster.names).batch

end World

/-- This is what has been done so far: replies were sent, and the world was changed. -/
structure Progress where
  replies : List String
  world : World
  deriving Repr, DecidableEq

/-- An act replies to the sender and changes the world step by step. When it fails, what it has done
by then stays done. -/
abbrev Act := ExceptT String (StateM Progress)

/-- The standard commands act and give a number. -/
abbrev Outcome := Act Int

namespace Act

variable {α : Type}

/-- This goes on from what has been done before. -/
def perform (act : Act α) (before : Progress) : Except String α × Progress :=
  act.run before

def reply (message : String) : Act Unit :=
  modify fun before => { before with replies := before.replies ++ [message] }

def replyEach (messages : List String) : Act Unit :=
  messages.forM reply

def require (context : Context) (use : Use α) (name : String) : Act α :=
  match context.get use name with
  | .ok value => pure value
  | .error error => throw error.message

def readRoster : Act Roster :=
  return (← get).world.roster

/-- A change of the roster tells whether it changes anything. -/
def changeRoster (change : Roster → Bool × Roster) : Act Bool :=
  modifyGet fun before =>
    let (changed, roster) := change before.world.roster
    (changed, { before with world.roster := roster })

def requireOnline (name : String) : Act Unit := do
  if (← readRoster).contains name then pure ()
  else throw ("No player named '" ++ name ++ "' is online")

def readFlag (name : String) : Act Bool :=
  return (← get).world.flags.get name

def setFlag (name : String) (value : Bool) : Act Unit :=
  modify fun before => { before with world.flags := before.world.flags.set name value }

end Act

/-- Counts past the greatest number are cut to it. -/
def saturate (count : Nat) : Int :=
  min count 2147483647

end CommandShell
