/-
This file guesses the rest of a line while it is typed.
-/

import CommandShell.Registry
import CommandShell.Shell.Paint

namespace CommandShell.Shell

open Text

/-- This is what a text adds to its strict start. -/
def extension? (start text : List Char) : Option (List Char) :=
  if start.isPrefixOf text && start.length < text.length then some (text.drop start.length)
  else none

/-- Only a single suggestion is a hint. -/
def suggestionHint? {ω : Type} (registry : Registry ω) (sender : Sender) (line : String) :
    Option (List Char) :=
  match (registry.suggestions sender line).items with
  | [suggestion] => do
      let (_, typed) ← cutAt? suggestion.span.start line.toList
      extension? typed suggestion.text.toList
  | _ => none

/-- This adds what a search of the history finds for the line. -/
def historyHint? (search : List Char → Option String) (line : String) : Option (List Char) := do
  let found ← search line.toList
  extension? line.toList found.toList

/-- The hinter keeps its last hint, without colours. -/
structure Hinter where
  current : String
  deriving Repr, DecidableEq

namespace Hinter

/-- A fresh hinter has no hint. -/
def fresh : Hinter := ⟨""⟩

def clear (hinter : Hinter) : Hinter :=
  { hinter with current := "" }

/-- Hints are given at the end of lines that are not blank. The last hint is forgotten in any case,
and the new one is shown in its colour. -/
def handle {ω : Type} (hinter : Hinter) (registry : Registry ω) (sender : Sender)
    (search : List Char → Option String) (line : String) (offset : Nat) (colored : Bool) :
    String × Hinter :=
  if offset ≠ byteLength line.toList || (trim line.toList).isEmpty then
    ("", hinter.clear)
  else
    match (suggestionHint? registry sender line).or (historyHint? search line) with
    | none => ("", hinter.clear)
    | some guess =>
        let current := String.ofList guess
        (Paint.faint.applyIf colored current, { hinter.clear with current })

def complete (hinter : Hinter) : String :=
  hinter.current

/-- This is the next word of the hint, with the blanks before it. -/
def nextWord (hinter : Hinter) : String :=
  let blanks := hinter.current.toList.takeWhile isBlank
  let words := hinter.current.toList.dropWhile isBlank
  String.ofList (blanks ++ words.takeWhile isSolid)

end Hinter

end CommandShell.Shell
