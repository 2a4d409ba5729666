/-
This file colours texts for terminals.
-/

namespace CommandShell.Shell

inductive Paint where
  | red
  | cyan
  | boldGreen
  | faint
  deriving Repr, DecidableEq

namespace Paint

def code : Paint → String
  | .red => "31"
  | .cyan => "36"
  | .boldGreen => "1;32"
  | .faint => "3;90"

def apply (paint : Paint) (text : String) : String :=
  "\x1b[" ++ paint.code ++ "m" ++ text ++ "\x1b[0m"

/-- Terminals without colours get the text alone. -/
def applyIf (colored : Bool) (paint : Paint) (text : String) : String :=
  if colored then paint.apply text else text

end Paint

end CommandShell.Shell
