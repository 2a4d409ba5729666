/-
This file says which route a line takes through a tree, without saying how it is found. A route goes
from each node to the first child that takes the next part of the line.
-/

import CommandShell.Proofs.Reading

namespace CommandShell

open Argument Text

/-- This is one node of a route with the text it has read. -/
structure Step (ω : Type) where
  node : Node ω
  before : Cursor
  after : Cursor
  binding : Option (String × Value)

/-- The place is where the route ends, behind blanks. -/
structure Route (ω : Type) where
  steps : List (Step ω)
  place : Cursor
  ending : Ending

namespace Route

variable {ω : Type}

def cons (step : Step ω) (route : Route ω) : Route ω :=
  { route with steps := step :: route.steps }

def arguments (route : Route ω) : Arguments :=
  route.steps.filterMap Step.binding

def nodes (route : Route ω) : List (Node ω) :=
  route.steps.map Step.node

/-- This is the executor of the last node that has one. -/
def executor? (route : Route ω) : Option (Executor ω) :=
  route.nodes.reverse.findSome? Node.executor

variable (place : Cursor) (ending : Ending)

@[simp]
theorem nodes_nil : (mk (ω := ω) [] place ending).nodes = [] := rfl

@[simp]
theorem arguments_nil : (mk (ω := ω) [] place ending).arguments = [] := rfl

@[simp]
theorem executor?_nil : (mk (ω := ω) [] place ending).executor? = none := rfl

@[simp]
theorem place_cons (step : Step ω) (route : Route ω) : (route.cons step).place = route.place := rfl

@[simp]
theorem ending_cons (step : Step ω) (route : Route ω) : (route.cons step).ending = route.ending :=
  rfl

@[simp]
theorem nodes_cons (step : Step ω) (route : Route ω) :
    (route.cons step).nodes = step.node :: route.nodes := rfl

@[simp]
theorem arguments_cons (step : Step ω) (route : Route ω) :
    (route.cons step).arguments = step.binding.toList ++ route.arguments := by
  unfold arguments cons
  cases binding : step.binding <;> simp [binding]

@[simp]
theorem executor?_cons (step : Step ω) (route : Route ω) :
    (route.cons step).executor? = route.executor?.or step.node.executor := by
  simp [executor?]

end Route

namespace Node

variable {ω : Type}

/-- A child takes a part of a line that the sender sees it for, and that ends acceptably. -/
structure Takes (sender : Sender) (acceptable : Cursor → Bool) (before : Cursor) (child : Node ω)
    (binding : Option (String × Value)) (after : Cursor) : Prop where
  visible : child.visibleTo sender
  reads : child.segment.Reads before binding after
  accepted : acceptable after

def Refuses (sender : Sender) (acceptable : Cursor → Bool) (before : Cursor)
    (child : Node ω) : Prop :=
  ∀ binding after, ¬ child.Takes sender acceptable before binding after

/-- This is the fault of the last visible child that cannot decode its part of the line. -/
def lastFault (sender : Sender) (place : Cursor) (children : List (Node ω)) : Option DecodeError :=
  ((children.filter (visibleTo sender)).filterMap fun child => child.segment.fault? place).getLast?

/-- From a node a line goes on behind blanks, until it is used up or no child takes it on. -/
inductive Follows (sender : Sender) (acceptable : Cursor → Bool) :
    Node ω → Cursor → Route ω → Prop where
  | exhausted {node : Node ω} {cursor : Cursor} (ended : cursor.skipBlanks.atEnd) :
      Follows sender acceptable node cursor ⟨[], cursor.skipBlanks, .exhausted⟩
  | stuck {node : Node ω} {cursor : Cursor} (more : ¬ cursor.skipBlanks.atEnd)
      (refused : ∀ child ∈ node.children, child.Refuses sender acceptable cursor.skipBlanks) :
      Follows sender acceptable node cursor
        ⟨[], cursor.skipBlanks, .stuck (lastFault sender cursor.skipBlanks node.children)⟩
  | step {node child : Node ω} {earlier later : List (Node ω)} {cursor after : Cursor}
      {binding : Option (String × Value)} {route : Route ω} (more : ¬ cursor.skipBlanks.atEnd)
      (children : node.children = earlier ++ child :: later)
      (refused : ∀ other ∈ earlier, other.Refuses sender acceptable cursor.skipBlanks)
      (taken : child.Takes sender acceptable cursor.skipBlanks binding after)
      (rest : Follows sender acceptable child after route) :
      Follows sender acceptable node cursor (route.cons ⟨child, cursor.skipBlanks, after, binding⟩)

variable {sender : Sender} {acceptable : Cursor → Bool} {before : Cursor} {child : Node ω}

/-- A child takes a line in at most one way. -/
theorem Takes.unique {binding otherBinding : Option (String × Value)} {after otherAfter : Cursor}
    (first : child.Takes sender acceptable before binding after)
    (second : child.Takes sender acceptable before otherBinding otherAfter) :
    binding = otherBinding ∧ after = otherAfter :=
  first.reads.unique second.reads

/-- A child that goes on behind a blank ends at a boundary. -/
theorem Takes.of_atBlank {binding : Option (String × Value)} {after : Cursor}
    (taken : child.Takes sender Cursor.atBlank before binding after) :
    child.Takes sender Cursor.atBoundary before binding after :=
  ⟨taken.visible, taken.reads, after.atBoundary_iff.mpr (.inr taken.accepted)⟩

theorem Takes.exists_blank {binding : Option (String × Value)} {after : Cursor}
    (taken : child.Takes sender Cursor.atBlank before binding after) :
    ∃ blank ∈ before.remaining, isBlank blank := by
  obtain ⟨text, start, _⟩ := taken.reads.reaches.exists_text
  obtain ⟨blank, rest, stops, separates⟩ := after.atBlank_iff.mp taken.accepted
  rw [start, stops]
  exact ⟨blank, List.mem_append_right _ List.mem_cons_self, separates⟩

theorem Takes.not_atEnd {binding : Option (String × Value)} {after : Cursor}
    (taken : child.Takes sender Cursor.atBlank before binding after) : ¬ before.atEnd := by
  obtain ⟨blank, member, _⟩ := taken.exists_blank
  rw [Cursor.atEnd_iff]
  exact List.ne_nil_of_mem member

/-- A child that fails to match a part of a line refuses it. -/
theorem refuses_of_rejected {cause : Option DecodeError}
    (rejected : (child.segment.attempt ⟨before, []⟩).1 = .rejected cause) :
    child.Refuses sender Cursor.atBoundary before := by
  intro binding after taken
  rcases child.segment.attempt_cases ⟨before, []⟩ with ⟨_, _, _, _, matched⟩ | ⟨refused, _⟩
  · rw [matched] at rejected
    cases rejected
  · have accepted := taken.accepted
    rw [refused binding after taken.reads] at accepted
    cases accepted

end Node

theorem mem_of_split {α : Type} {list earlier later : List α} {member : α}
    (split : list = earlier ++ member :: later) : member ∈ list :=
  split ▸ List.mem_append_right _ List.mem_cons_self

/-- Of two members of a list, each at its place, one comes first or they are at the same place. -/
theorem append_cons_cases {α : Type} {earlier later otherEarlier otherLater : List α}
    {member other : α} (same : earlier ++ member :: later = otherEarlier ++ other :: otherLater) :
    other ∈ earlier ∨ member ∈ otherEarlier ∨
      (earlier = otherEarlier ∧ member = other ∧ later = otherLater) := by
  induction earlier generalizing otherEarlier with
  | nil =>
      cases otherEarlier with
      | nil =>
          obtain ⟨rfl, rfl⟩ := List.cons.inj same
          exact .inr (.inr ⟨rfl, rfl, rfl⟩)
      | cons first otherEarlier =>
          obtain ⟨rfl, _⟩ := List.cons.inj same
          exact .inr (.inl List.mem_cons_self)
  | cons first earlier inductionHypothesis =>
      cases otherEarlier with
      | nil =>
          obtain ⟨rfl, _⟩ := List.cons.inj same
          exact .inl List.mem_cons_self
      | cons otherFirst otherEarlier =>
          obtain ⟨rfl, tail⟩ := List.cons.inj same
          rcases inductionHypothesis tail with found | found | ⟨rfl, rfl, rfl⟩
          · exact .inl (List.mem_cons_of_mem _ found)
          · exact .inr (.inl (List.mem_cons_of_mem _ found))
          · exact .inr (.inr ⟨rfl, rfl, rfl⟩)

namespace Node.Follows

variable {ω : Type} {sender : Sender} {acceptable : Cursor → Bool} {node : Node ω}
  {cursor : Cursor} {route other : Route ω}

/-- A line takes one route. -/
theorem unique (first : node.Follows sender acceptable cursor route)
    (second : node.Follows sender acceptable cursor other) : route = other := by
  induction first generalizing other with
  | exhausted ended =>
      cases second with
      | exhausted => rfl
      | stuck more => exact absurd ended more
      | step more => exact absurd ended more
  | stuck more refused =>
      cases second with
      | exhausted ended => exact absurd ended more
      | stuck => rfl
      | step _ children _ taken =>
          exact absurd taken (refused _ (mem_of_split children) _ _)
  | step more children refused taken _ inductionHypothesis =>
      cases second with
      | exhausted ended => exact absurd ended more
      | stuck _ otherRefused =>
          exact absurd taken (otherRefused _ (mem_of_split children) _ _)
      | step _ otherChildren otherRefused otherTaken otherRest =>
          rcases append_cons_cases (children.symm.trans otherChildren) with
            found | found | ⟨rfl, rfl, rfl⟩
          · exact absurd otherTaken (refused _ found _ _)
          · exact absurd taken (otherRefused _ found _ _)
          · obtain ⟨rfl, rfl⟩ := taken.unique otherTaken
            rw [inductionHypothesis otherRest]

/-- A route reads its line forward up to its place. -/
theorem reaches (follows : node.Follows sender acceptable cursor route) :
    cursor.Reaches route.place := by
  induction follows with
  | exhausted | stuck => exact Cursor.reaches_skipBlanks _
  | step _ _ _ taken _ inductionHypothesis =>
      exact ((Cursor.reaches_skipBlanks _).trans taken.reads.reaches).trans inductionHypothesis

/-- A route ends behind blanks. -/
theorem atBlank_place (follows : node.Follows sender acceptable cursor route) :
    route.place.atBlank = false := by
  induction follows with
  | exhausted | stuck => exact Cursor.atBlank_skipBlanks _
  | step _ _ _ _ _ inductionHypothesis => exact inductionHypothesis

/-- What children inherit from a node holds of the last node on a route. -/
theorem last_of_inherited {holds : Node ω → Prop}
    (follows : node.Follows sender acceptable cursor route) (own : holds node)
    (inherited : ∀ parent child, holds parent → child ∈ parent.children → holds child) :
    holds (route.nodes.getLastD node) := by
  induction follows with
  | exhausted | stuck => exact own
  | @step node child earlier later _ _ _ route _ children _ _ _ inductionHypothesis =>
      rw [Route.nodes_cons, List.getLastD_cons]
      exact inductionHypothesis (inherited node child own (mem_of_split children))

end Node.Follows

/-! ### Properties of all nodes -/

namespace Node

variable {ω : Type} {holds : Node ω → Prop} {node child : Node ω}

/-- What holds throughout a tree holds of all its nodes. -/
inductive Throughout (holds : Node ω → Prop) : Node ω → Prop where
  | node {node : Node ω} (own : holds node)
      (below : ∀ child ∈ node.children, child.Throughout holds) : Throughout holds node

namespace Throughout

theorem own (throughout : node.Throughout holds) : holds node := by
  obtain ⟨own, _⟩ := throughout
  exact own

theorem of_mem_children (throughout : node.Throughout holds) (member : child ∈ node.children) :
    child.Throughout holds := by
  obtain ⟨_, below⟩ := throughout
  exact below child member

theorem node_iff {segment : Segment} {executor : Option (Executor ω)}
    {requirement : Option (Sender → Bool)} {children : List (Node ω)} :
    (Node.node segment executor requirement children).Throughout holds ↔
      holds (.node segment executor requirement children) ∧
        ∀ child ∈ children, child.Throughout holds :=
  ⟨fun throughout => ⟨throughout.own, fun _ => throughout.of_mem_children⟩,
    fun ⟨own, below⟩ => .node own below⟩

end Throughout

theorem Follows.throughout {sender : Sender} {acceptable : Cursor → Bool} {cursor : Cursor}
    {route : Route ω} (follows : node.Follows sender acceptable cursor route)
    (throughout : node.Throughout holds) : ∀ other ∈ node :: route.nodes, holds other := by
  induction follows with
  | exhausted | stuck => exact List.forall_mem_singleton.mpr throughout.own
  | step _ children _ _ _ inductionHypothesis =>
      have below := throughout.of_mem_children (mem_of_split children)
      exact List.forall_mem_cons.mpr ⟨throughout.own, inductionHypothesis below⟩

end Node

end CommandShell
