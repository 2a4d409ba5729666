/-
This file builds trees that describe lines without ambiguity about where their parts end.
-/

import CommandShell.Node.Basic

namespace CommandShell

open Argument Text

inductive BuildError where
  | greedyArgumentHasChildren (name : String)
  | invalidLiteral (text : String)
  | duplicateArgument (name : String)
  | duplicateLabel (label : String)
  deriving Repr, DecidableEq

def BuildError.message : BuildError → String
  | .greedyArgumentHasChildren name =>
      "greedy argument '" ++ name ++ "' must be the last node on its path"
  | .invalidLiteral text =>
      "invalid literal '" ++ text ++ "': must be non-empty without whitespace"
  | .duplicateArgument name => "argument '" ++ name ++ "' appears more than once on a path"
  | .duplicateLabel label => "command label '" ++ label ++ "' is already registered"

/-- This gives a value in which no fault is found. -/
def judge {α : Type} (value : α) : Option BuildError → Except BuildError α
  | none => .ok value
  | some error => .error error

namespace Segment

/-- These are the names of arguments that are bound behind the segment. -/
def bind (bound : List String) : Segment → List String
  | .literal _ => bound
  | .argument name .. => name :: bound

/-- This takes the name of the segment away again, which was bound last. -/
def release (bound : List String) : Segment → List String
  | .literal _ => bound
  | .argument .. => bound.tail

@[simp]
theorem release_bind (bound : List String) (segment : Segment) :
    segment.release (segment.bind bound) = bound := by
  cases segment <;> rfl

/-- This checks a segment by itself, given the names bound before it and whether it is the last. -/
def violation? (bound : List String) (isLast : Bool) : Segment → Option BuildError
  | .literal text => if isWord text.toList then none else some (.invalidLiteral text)
  | .argument name kind _ =>
      if name ∈ bound then some (.duplicateArgument name)
      else if kind.isGreedy && !isLast then some (.greedyArgumentHasChildren name)
      else none

end Segment

namespace Node

variable {ω : Type}

mutual

/-- This is the first fault of a tree; a node comes before its children. -/
def violation? (bound : List String) : Node ω → Option BuildError
  | .node segment _ _ children =>
      (segment.violation? bound children.isEmpty).or
        (violationAmong? (segment.bind bound) children)

def violationAmong? (bound : List String) : List (Node ω) → Option BuildError
  | [] => none
  | child :: rest => (child.violation? bound).or (violationAmong? bound rest)

end

mutual

/-- This builds a node and then its children, one after another, up to the first fault. The names
that are bound stand on a path, and what is left on it is given in any case. -/
def build (path : List String) : Node ω → Except BuildError (Node ω) × List String
  | .node segment executor requirement children =>
      match segment.violation? path children.isEmpty with
      | some error => (.error error, path)
      | none =>
          let (built, left) := buildAmong (segment.bind path) children
          (built.map (.node segment executor requirement ·), segment.release left)

def buildAmong (path : List String) :
    List (Node ω) → Except BuildError (List (Node ω)) × List String
  | [] => (.ok [], path)
  | child :: rest =>
      match child.build path with
      | (.error error, left) => (.error error, left)
      | (.ok built, left) =>
          let (others, last) := buildAmong left rest
          (others.map (built :: ·), last)

end

mutual

/-- A tree without a fault is built as it is, and the path is always given back. -/
theorem build_eq (path : List String) : ∀ node : Node ω,
    node.build path = (judge node (node.violation? path), path)
  | .node segment executor requirement children => by
      rw [build, violation?]
      cases segment.violation? path children.isEmpty with
      | some error => rfl
      | none =>
          simp only [buildAmong_eq (segment.bind path) children, Segment.release_bind,
            Option.none_or]
          cases violationAmong? (segment.bind path) children <;> rfl

theorem buildAmong_eq (path : List String) : ∀ children : List (Node ω),
    buildAmong path children = (judge children (violationAmong? path children), path)
  | [] => by rw [buildAmong, violationAmong?, judge]
  | child :: rest => by
      rw [buildAmong, violationAmong?, build_eq path child]
      cases child.violation? path with
      | some error => rfl
      | none =>
          simp only [judge, buildAmong_eq path rest, Option.none_or]
          cases violationAmong? path rest <;> rfl

end

end Node

end CommandShell
