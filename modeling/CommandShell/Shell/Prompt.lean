/-
This file writes what stands before the lines that a sender types.
-/

import CommandShell.Shell.Paint

namespace CommandShell.Shell

structure Prompt where
  sender : String
  text : String
  operator : Bool
  colored : Bool
  deriving Repr, DecidableEq

namespace Prompt

def left (prompt : Prompt) : String :=
  Paint.cyan.applyIf prompt.colored prompt.sender ++ "@" ++
    Paint.boldGreen.applyIf prompt.colored prompt.text

def right (_ : Prompt) : String := ""

def indicator (prompt : Prompt) : String :=
  if prompt.operator then "# " else "> "

/-- This stands before the lines that continue a quotation. -/
def continuation (_ : Prompt) : String := "... "

def search (_ : Prompt) (failing : Bool) (term : String) : String :=
  "(" ++ (if failing then "failing " else "") ++ "reverse-search: " ++ term ++ ") "

end Prompt

end CommandShell.Shell
