/-
This file shows trees and contexts for those who write commands.
-/

import CommandShell.Node.Basic
import CommandShell.Text.Record

namespace CommandShell

open Text

namespace Segment

/-- The fields of a node lie between those that say what it reads and its suggestions. -/
def inspect (executable restricted : Bool) (children : String) : Segment → String
  | .literal text =>
      record "LiteralNode" [
        ("literal", Quoted.quote text),
        ("executable", toString executable),
        ("restricted", toString restricted),
        ("children", children)]
  | .argument name kind provider =>
      record "ArgumentNode" [
        ("name", Quoted.quote name),
        ("kind", kind.inspect),
        ("executable", toString executable),
        ("restricted", toString restricted),
        ("custom_suggestions", toString provider.isSome),
        ("children", children)]

end Segment

namespace Node

variable {ω : Type}

mutual

def inspect : Node ω → String
  | .node segment executor requirement children =>
      segment.inspect executor.isSome requirement.isSome (bracketed (inspectAll children))

def inspectAll : List (Node ω) → List String
  | [] => []
  | child :: rest => child.inspect :: inspectAll rest

end

end Node

def Arguments.inspect (arguments : Arguments) : String :=
  braced (arguments.map fun argument => Quoted.quote argument.1 ++ ": " ++ argument.2.inspect)

def Context.inspect (context : Context) : String :=
  record "CommandContext" [
    ("sender", Quoted.quote context.sender.name),
    ("input", Quoted.quote context.line),
    ("label", Quoted.quote context.label),
    ("arguments", context.arguments.inspect),
    ("command", Quoted.quote context.command.name)]

end CommandShell
