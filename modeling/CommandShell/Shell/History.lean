/-
This file remembers the lines of a session.
-/

namespace CommandShell.Shell

/-- The newest line comes first. -/
structure History where
  capacity : Nat
  lines : List String
  deriving Repr, DecidableEq

namespace History

def ofCapacity (capacity : Nat) : History := ⟨capacity, []⟩

/-- Empty lines are not remembered, nor is one that repeats the newest. Old lines are forgotten when
there are more than the capacity. -/
def remember (history : History) (line : String) : History :=
  if line.isEmpty || history.lines.head? == some line then history
  else { history with lines := (line :: history.lines).take history.capacity }

/-- This is the newest line that starts with a text. -/
def search? (history : History) (start : List Char) : Option String :=
  history.lines.find? fun line => start.isPrefixOf line.toList

end History

end CommandShell.Shell
