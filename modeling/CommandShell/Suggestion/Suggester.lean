/-
This file collects the candidates that continue a line from a place in it.
-/

import CommandShell.Suggestion.Batch

namespace CommandShell

open Text

/-- Accepted suggestions replace the typed text, which reaches from the anchor to the end of the
line. -/
structure Suggester where
  before : List Char
  typed : List Char
  accepted : List Suggestion
  deriving Repr, DecidableEq

namespace Suggester

/-- The anchor is the greatest boundary that is at most the offset. -/
def ofList (line : List Char) (offset : Nat) : Suggester :=
  let parts := cutDown offset line
  ⟨parts.1, parts.2, []⟩

def ofLine (line : String) (offset : Nat) : Suggester :=
  ofList line.toList offset

def line (suggester : Suggester) : List Char :=
  suggester.before ++ suggester.typed

def anchor (suggester : Suggester) : Nat :=
  byteLength suggester.before

def loweredTyped (suggester : Suggester) : List Char :=
  lowercase suggester.typed

/-- A candidate continues the typed text if it starts with it, whatever the case. -/
def matchesList (typed candidate : List Char) : Bool :=
  typed.isEmpty || (lowercase typed).isPrefixOf (lowercase candidate)

def accepts (suggester : Suggester) (text : String) : Bool :=
  matchesList suggester.typed text.toList

def span (suggester : Suggester) : Span where
  start := suggester.anchor
  stop := byteLength suggester.line
  ordered := by simp [anchor, line]

def offer (suggester : Suggester) (text : String) (tooltip : Option String) : Suggester :=
  if suggester.accepts text then
    { suggester with accepted := suggester.accepted ++ [⟨suggester.span, text, tooltip⟩] }
  else
    suggester

def suggest (suggester : Suggester) (text : String) : Suggester :=
  suggester.offer text none

def suggestAll (suggester : Suggester) (texts : List String) : Suggester :=
  texts.foldl suggest suggester

/-- This starts anew at another place of the line. -/
def restartAt (suggester : Suggester) (offset : Nat) : Suggester :=
  ofList suggester.line offset

def restart (suggester : Suggester) : Suggester :=
  { suggester with accepted := [] }

/-- The batch covers the suggestions, and is empty at the anchor if there are none. -/
def batch (suggester : Suggester) : Batch :=
  let span :=
    match suggester.accepted.map Suggestion.span with
    | [] => Span.empty suggester.anchor
    | first :: rest => rest.foldl Span.cover first
  Batch.ofList span suggester.accepted

end Suggester

end CommandShell
