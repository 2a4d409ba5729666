/-
This file lists the completions of a line for a menu.
-/

import CommandShell.Registry

namespace CommandShell.Shell

structure MenuItem where
  value : String
  description : Option String
  span : Span
  /-- A blank is typed after an accepted item. -/
  appendsBlank : Bool
  deriving Repr, DecidableEq

/-- Tooltips are shown as descriptions or left out. -/
def menu {ω : Type} (registry : Registry ω) (sender : Sender) (showsTooltips : Bool)
    (line : String) (offset : Nat) : List MenuItem :=
  (registry.suggestionsAt sender line offset).items.map fun suggestion =>
    ⟨suggestion.text, if showsTooltips then suggestion.tooltip else none, suggestion.span, true⟩

end CommandShell.Shell
