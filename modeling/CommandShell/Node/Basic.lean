/-
This file represents the trees that describe the lines of a command. Each node stands for a part of
the line; its children are the parts that may follow.
-/

import CommandShell.Argument.Offer
import CommandShell.Node.Context

namespace CommandShell

open Argument

/-- A provider suggests values of an argument, given the arguments before it. -/
abbrev Provider := Context → Suggester → Batch

namespace Provider

/-- This provider suggests the same values everywhere. -/
def fixed (values : List (String × Option String)) : Provider := fun _ suggester =>
  (values.foldl (fun suggester value => suggester.offer value.1 value.2) suggester).batch

end Provider

/-- This is the part of the line that a node stands for. -/
inductive Segment where
  | literal (text : String)
  /-- Suggestions come from the provider or else from the kind. -/
  | argument (name : String) (kind : Kind) (provider : Option Provider)

namespace Segment

def name : Segment → String
  | .literal text => text
  | .argument name .. => name

def usage : Segment → String
  | .literal text => text
  | .argument name .. => "<" ++ name ++ ">"

def suggestions (context : Context) (suggester : Suggester) : Segment → Batch
  | .literal text => (suggester.suggest text).batch
  | .argument _ kind none => kind.offer suggester
  | .argument _ _ (some provider) => provider context suggester

end Segment

/-- An executor gives the outcome of a line that ends at its node. -/
abbrev Executor (ω : Type) := Context → ω

inductive Node (ω : Type) where
  | node (segment : Segment) (executor : Option (Executor ω))
      (requirement : Option (Sender → Bool)) (children : List (Node ω))

namespace Node

variable {ω : Type}

def segment : Node ω → Segment
  | .node segment _ _ _ => segment

def executor : Node ω → Option (Executor ω)
  | .node _ executor _ _ => executor

def requirement : Node ω → Option (Sender → Bool)
  | .node _ _ requirement _ => requirement

def children : Node ω → List (Node ω)
  | .node _ _ _ children => children

def literal (text : String) : Node ω :=
  .node (.literal text) none none []

def argument (name : String) (kind : Kind) : Node ω :=
  .node (.argument name kind none) none none []

/-- This appends children; they are tried in order. -/
def followedBy (children : List (Node ω)) : Node ω → Node ω
  | .node segment executor requirement earlier =>
      .node segment executor requirement (earlier ++ children)

def executing (executor : Executor ω) : Node ω → Node ω
  | .node segment _ requirement children => .node segment (some executor) requirement children

/-- Senders that do not meet the requirement do not see the node. -/
def requiring (requirement : Sender → Bool) : Node ω → Node ω
  | .node segment executor _ children => .node segment executor (some requirement) children

def suggesting (provider : Provider) : Node ω → Node ω
  | .node (.argument name kind _) executor requirement children =>
      .node (.argument name kind (some provider)) executor requirement children
  | other => other

def isExecutable (node : Node ω) : Bool :=
  node.executor.isSome

def visibleTo (sender : Sender) (node : Node ω) : Bool :=
  node.requirement.all (· sender)

def visibleChildren (sender : Sender) (node : Node ω) : List (Node ω) :=
  node.children.filter (visibleTo sender)

mutual

/-- This is the tree with other outcomes. -/
def map {υ : Type} (change : ω → υ) : Node ω → Node υ
  | .node segment executor requirement children =>
      .node segment (executor.map (change ∘ ·)) requirement (mapAll change children)

def mapAll {υ : Type} (change : ω → υ) : List (Node ω) → List (Node υ)
  | [] => []
  | child :: rest => child.map change :: mapAll change rest

end

end Node

end CommandShell
