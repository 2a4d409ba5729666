/-
This file represents suggestions to replace a part of a line, and orders them.
-/

import CommandShell.Suggestion.Span
import CommandShell.Text.Lowercase

namespace CommandShell

open Text

@[ext]
structure Suggestion where
  span : Span
  text : String
  tooltip : Option String
  deriving Repr, DecidableEq

namespace Suggestion

/-- This replaces the span of a line by the text. A part of the line that a boundary inside a
character would cut is lost. -/
def applyTo (suggestion : Suggestion) (line : List Char) : List Char :=
  let before := ((cutAt? (min suggestion.span.start (byteLength line)) line).map Prod.fst).getD []
  let after := ((cutAt? (min suggestion.span.stop (byteLength line)) line).map Prod.snd).getD []
  before ++ suggestion.text.toList ++ after

/-- A text in place of the whole line is the new line. -/
def apply (suggestion : Suggestion) (line : String) : String :=
  if suggestion.span.start = 0 && byteLength line.toList ≤ suggestion.span.stop then
    suggestion.text
  else
    String.ofList (suggestion.applyTo line.toList)

def lowered (suggestion : Suggestion) : String :=
  String.ofList (lowercase suggestion.text.toList)

/-- Texts are ordered without their case first. Equal ones are told apart by their exact text, then
by their tooltips, of which none comes first, and by their spans. -/
def compare : Suggestion → Suggestion → Ordering :=
  compareLex (compareOn lowered) <|
    compareLex (compareOn text) <|
      compareLex (compareOn tooltip) (compareOn span)

instance : Std.TransCmp compare :=
  inferInstanceAs (Std.TransCmp (compareLex (compareOn lowered) <|
    compareLex (compareOn text) <|
      compareLex (compareOn tooltip) (compareOn span)))

theorem eq_of_compare {left right : Suggestion} (same : compare left right = .eq) :
    left = right := by
  simp only [compare, compareLex, compareOn, Ordering.then_eq_eq,
    Std.LawfulEqOrd.compare_eq_iff_eq] at same
  exact Suggestion.ext same.2.2.2 same.2.1 same.2.2.1

instance : Std.LawfulEqCmp compare where
  eq_of_compare := eq_of_compare

end Suggestion

end CommandShell
