/-
This file represents commands: trees with a name, aliases and a permission.
-/

import CommandShell.Node.Soundness
import CommandShell.Node.Usage

namespace CommandShell

open Text

/-- This is a command that may still have faults. -/
structure Draft (ω : Type) where
  heading : Heading
  executor : Option (Executor ω)
  requirement : Option (Sender → Bool)
  children : List (Node ω)

namespace Draft

variable {ω : Type}

def ofName (name : String) (children : List (Node ω)) : Draft ω :=
  ⟨Heading.ofName name, none, none, children⟩

def describedAs (description : String) (draft : Draft ω) : Draft ω :=
  { draft with heading := { draft.heading with description } }

def withAlias (label : String) (draft : Draft ω) : Draft ω :=
  { draft with heading := { draft.heading with aliases := draft.heading.aliases ++ [label] } }

def permittedBy (permission : String) (draft : Draft ω) : Draft ω :=
  { draft with heading := { draft.heading with permission := some permission } }

def executing (executor : Executor ω) (draft : Draft ω) : Draft ω :=
  { draft with executor := some executor }

def name (draft : Draft ω) : String :=
  draft.heading.name

def labels (draft : Draft ω) : List String :=
  draft.heading.labels

/-- This is the node that reads the label. -/
def root (draft : Draft ω) : Node ω :=
  .node (.literal draft.name) draft.executor draft.requirement draft.children

def hasLabel (draft : Draft ω) (label : String) : Bool :=
  draft.labels.contains label

def usableBy (draft : Draft ω) (sender : Sender) : Bool :=
  draft.heading.permission.all sender.holds && draft.root.visibleTo sender

/-- This describes the lines of a command in short. -/
def usage (draft : Draft ω) (sender : Sender) : String :=
  match draft.root.continuation? sender with
  | some rest => draft.name ++ " " ++ rest
  | none => draft.name

def executableLines (draft : Draft ω) (sender : Sender) : List String :=
  draft.root.executableLines sender draft.name

def map {υ : Type} (change : ω → υ) (draft : Draft ω) : Draft υ where
  heading := draft.heading
  executor := draft.executor.map (change ∘ ·)
  requirement := draft.requirement
  children := Node.mapAll change draft.children

/-- Labels are words, and no two of them are equal. -/
def labelViolation? (taken : List String) : List String → Option BuildError
  | [] => none
  | label :: rest =>
      if !isWord label.toList then some (.invalidLiteral label)
      else if label ∈ taken then some (.duplicateLabel label)
      else labelViolation? (taken ++ [label]) rest

/-- This is the first fault of a command; its tree comes before its aliases. -/
def violation? (draft : Draft ω) : Option BuildError :=
  (draft.root.violation? []).or (labelViolation? [draft.name] draft.heading.aliases)

end Draft

structure Command (ω : Type) extends Draft ω where
  sound : toDraft.violation? = none

namespace Draft

variable {ω : Type} {draft : Draft ω} {root : Node ω} {path : List String}

/-- This puts a tree in place of the one that a draft has. -/
def withRoot (root : Node ω) (draft : Draft ω) : Draft ω where
  heading := { draft.heading with name := root.segment.name }
  executor := root.executor
  requirement := root.requirement
  children := root.children

/-- A tree that is built has no fault, and is the one of the draft. -/
theorem root_of_build (built : draft.root.build [] = (.ok root, path)) :
    draft.root.violation? [] = none ∧ root = draft.root := by
  rw [Node.build_eq] at built
  cases verdict : draft.root.violation? [] with
  | some error =>
      rw [verdict] at built
      cases built
  | none =>
      rw [verdict] at built
      cases built
      exact ⟨rfl, rfl⟩

theorem sound_of_build (built : draft.root.build [] = (.ok root, path))
    (labelled : labelViolation? [root.segment.name] draft.heading.aliases = none) :
    (draft.withRoot root).violation? = none := by
  obtain ⟨sound, rfl⟩ := root_of_build built
  exact Option.or_eq_none_iff.mpr ⟨sound, labelled⟩

/-- The tree is built before the aliases are checked. -/
def build (draft : Draft ω) : Except BuildError (Command ω) :=
  match built : draft.root.build [] with
  | (.error error, _) => .error error
  | (.ok root, _) =>
      match labelled : labelViolation? [root.segment.name] draft.heading.aliases with
      | some error => .error error
      | none => .ok ⟨draft.withRoot root, sound_of_build built labelled⟩

end Draft

end CommandShell
