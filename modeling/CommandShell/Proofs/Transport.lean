/-
This file carries routes over from one tree to another. A change of the nodes keeps the routes of
all lines if the sender sees the same parts of lines below each node, in the same order.
-/

import CommandShell.Proofs.Route

namespace CommandShell

open Argument

namespace Segment

/-- This is the segment without a provider of its own. -/
def bare : Segment → Segment
  | .literal text => .literal text
  | .argument name kind _ => .argument name kind none

variable {segment : Segment} {before after : Cursor} {binding : Option (String × Value)}

/-- Providers do not change what is read. -/
theorem reads_bare_iff :
    segment.bare.Reads before binding after ↔ segment.Reads before binding after := by
  cases segment with
  | literal text => rfl
  | argument name kind provider =>
      constructor
      · intro reads
        cases reads with
        | argument decoded => exact .argument decoded
      · intro reads
        cases reads with
        | argument decoded => exact .argument decoded

theorem fault?_bare (segment : Segment) (place : Cursor) :
    segment.bare.fault? place = segment.fault? place := by
  cases segment <;> rfl

end Segment

namespace Route

variable {ω υ : Type} (change : Node ω → Node υ) (route : Route ω)

/-- This is the route through the changed nodes. -/
def map : Route υ where
  steps := route.steps.map fun step => ⟨change step.node, step.before, step.after, step.binding⟩
  place := route.place
  ending := route.ending

@[simp]
theorem place_map : (route.map change).place = route.place := rfl

@[simp]
theorem ending_map : (route.map change).ending = route.ending := rfl

@[simp]
theorem nodes_map : (route.map change).nodes = route.nodes.map change := by
  simp [map, nodes]

@[simp]
theorem arguments_map : (route.map change).arguments = route.arguments := by
  rw [map, arguments, arguments, List.filterMap_map]
  rfl

theorem executor?_map {change : Node ω → Node ω}
    (same : ∀ node, (change node).executor = node.executor) :
    (route.map change).executor? = route.executor? := by
  rw [executor?, nodes_map, ← List.map_reverse, List.findSome?_map]
  simp only [Function.comp_def, same]
  rfl

end Route

namespace Node

variable {ω υ : Type} {sender : Sender} {acceptable : Cursor → Bool} {change : Node ω → Node υ}
  {node : Node ω} {cursor place : Cursor}

/-- A sender finds the same parts of lines in the changed trees. -/
structure Keeps (sender : Sender) (change : Node ω → Node υ) : Prop where
  bare_eq : ∀ node, (change node).segment.bare = node.segment.bare
  visibleTo_eq : ∀ node, (change node).visibleTo sender = node.visibleTo sender
  visibleChildren_eq : ∀ node,
    (change node).visibleChildren sender = (node.visibleChildren sender).map change

/-- Children that the sender does not see take nothing. -/
theorem refuses_of_visible {children : List (Node ω)}
    (refused : ∀ other ∈ children.filter (visibleTo sender),
      other.Refuses sender acceptable cursor) :
    ∀ other ∈ children, other.Refuses sender acceptable cursor := by
  intro other member binding after taken
  exact refused other (List.mem_filter.mpr ⟨member, taken.visible⟩) binding after taken

namespace Keeps

variable (keeps : Keeps sender change)

include keeps

theorem takes_iff {child : Node ω} {binding : Option (String × Value)} {after : Cursor} :
    (change child).Takes sender acceptable cursor binding after ↔
      child.Takes sender acceptable cursor binding after := by
  have reads : (change child).segment.Reads cursor binding after ↔
      child.segment.Reads cursor binding after := by
    rw [← Segment.reads_bare_iff, keeps.bare_eq, Segment.reads_bare_iff]
  constructor
  · rintro ⟨visible, readsChanged, accepted⟩
    exact ⟨keeps.visibleTo_eq child ▸ visible, reads.mp readsChanged, accepted⟩
  · rintro ⟨visible, readsSame, accepted⟩
    exact ⟨(keeps.visibleTo_eq child).symm ▸ visible, reads.mpr readsSame, accepted⟩

/-- Where children refuse a line, so do the changed children. -/
theorem refuses {children : List (Node ω)} {others : List (Node υ)}
    (same : others.filter (visibleTo sender) = (children.filter (visibleTo sender)).map change)
    (refused : ∀ child ∈ children, child.Refuses sender acceptable cursor) :
    ∀ other ∈ others, other.Refuses sender acceptable cursor := by
  refine refuses_of_visible ?_
  rw [same]
  refine List.forall_mem_map.mpr fun child member binding after taken => ?_
  have among := (List.mem_filter.mp member).1
  exact refused child among binding after (keeps.takes_iff.mp taken)

theorem lastFault_eq (node : Node ω) (place : Cursor) :
    lastFault sender place (change node).children = lastFault sender place node.children := by
  have same : ∀ child, (change child).segment.fault? place = child.segment.fault? place := by
    intro child
    rw [← Segment.fault?_bare, keeps.bare_eq, Segment.fault?_bare]
  have visible := keeps.visibleChildren_eq node
  unfold visibleChildren at visible
  rw [lastFault, visible, List.filterMap_map, lastFault]
  simp only [Function.comp_def, same]

/-- A child that is seen keeps its place among those that are seen. -/
theorem exists_split {child : Node ω} {earlier later : List (Node ω)}
    (children : node.children = earlier ++ child :: later) (visible : child.visibleTo sender) :
    ∃ before behind, (change node).children = before ++ change child :: behind ∧
      before.filter (visibleTo sender) = (earlier.filter (visibleTo sender)).map change := by
  have seen := keeps.visibleChildren_eq node
  rw [visibleChildren, visibleChildren, children, List.filter_append, List.map_append,
    List.filter_cons_of_pos visible, List.map_cons] at seen
  obtain ⟨before, rest, split, beforeSeen, restSeen⟩ := List.filter_eq_append_iff.mp seen
  obtain ⟨hidden, behind, rfl, unseen, _⟩ := List.filter_eq_cons_iff.mp restSeen
  refine ⟨before ++ hidden, behind, ?_, ?_⟩
  · rw [split, List.append_assoc]
  · rw [List.filter_append, List.filter_eq_nil_iff.mpr unseen, List.append_nil, beforeSeen]

end Keeps

/-- A line takes the same route through the changed tree. -/
theorem Follows.map {route : Route ω} (follows : node.Follows sender acceptable cursor route)
    (keeps : Keeps sender change) :
    (change node).Follows sender acceptable cursor (route.map change) := by
  induction follows with
  | exhausted ended => exact .exhausted ended
  | @stuck node cursor more refused =>
      have stuck := Follows.stuck more (keeps.refuses (keeps.visibleChildren_eq node) refused)
      rwa [keeps.lastFault_eq] at stuck
  | step more children refused taken _ inductionHypothesis =>
      obtain ⟨before, behind, split, same⟩ := keeps.exists_split children taken.visible
      exact .step more split (keeps.refuses same refused) (keeps.takes_iff.mpr taken)
        inductionHypothesis

end Node

end CommandShell
