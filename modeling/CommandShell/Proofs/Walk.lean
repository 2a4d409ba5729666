/-
This file shows that the walks along a line take the route of the line. The names on a route are
distinct in a sound tree, so that binding a value keeps the values before it and taking it back
leaves no trace.
-/

import CommandShell.Command.Completion
import CommandShell.Command.Execution
import CommandShell.Proofs.Route

namespace CommandShell

open Argument

/-! ### Names -/

def Arguments.Within (arguments : Arguments) (bound : List String) : Prop :=
  ∀ argument ∈ arguments, argument.1 ∈ bound

theorem Arguments.within_nil (bound : List String) : Within [] bound := by
  intro argument member
  cases member

namespace Segment

variable {segment : Segment} {bound : List String} {isLast : Bool} {cursor after : Cursor}
  {binding : Option (String × Value)} {arguments : Arguments}

theorem notMem_of_sound {name : String} {kind : Kind} {provider : Option Provider}
    (sound : (argument name kind provider).violation? bound isLast = none) : name ∉ bound := by
  intro member
  simp [violation?, member] at sound

/-- A segment of a sound tree binds a new name. -/
theorem Reads.bindAny_eq (reads : segment.Reads cursor binding after)
    (sound : segment.violation? bound isLast = none) (within : arguments.Within bound) :
    arguments.bindAny binding = arguments ++ binding.toList ∧
      (arguments ++ binding.toList).Within (segment.bind bound) ∧
      segment.unbind (arguments.bindAny binding) = arguments := by
  cases reads with
  | literal =>
      refine ⟨(List.append_nil arguments).symm, ?_, rfl⟩
      simpa [bind] using within
  | @argument name kind provider value after decoded =>
      have new := notMem_of_sound sound
      have fresh : ∀ argument ∈ arguments, argument.1 ≠ name := by
        rintro argument member rfl
        exact new (within argument member)
      refine ⟨arguments.bind_of_fresh value fresh, ?_, arguments.unbind_bind_of_fresh value fresh⟩
      intro argument member
      rcases List.mem_append.mp member with earlier | last
      · exact List.mem_cons_of_mem _ (within argument earlier)
      · obtain rfl := List.mem_singleton.mp last
        exact List.mem_cons_self

end Segment

namespace Node

variable {ω : Type}

theorem segment_sound {node : Node ω} {bound : List String}
    (sound : node.violation? bound = none) :
    node.segment.violation? bound node.children.isEmpty = none := by
  obtain ⟨segment, executor, requirement, children⟩ := node
  rw [violation?, Option.or_eq_none_iff] at sound
  exact sound.1

theorem sound_of_mem_among {children : List (Node ω)} {child : Node ω} {bound : List String}
    (sound : violationAmong? bound children = none) (member : child ∈ children) :
    child.violation? bound = none := by
  induction children with
  | nil => cases member
  | cons first rest inductionHypothesis =>
      rw [violationAmong?, Option.or_eq_none_iff] at sound
      rcases List.mem_cons.mp member with rfl | later
      · exact sound.1
      · exact inductionHypothesis sound.2 later

theorem child_sound {node child : Node ω} {bound : List String}
    (sound : node.violation? bound = none) (member : child ∈ node.children) :
    child.violation? (node.segment.bind bound) = none := by
  obtain ⟨segment, executor, requirement, children⟩ := node
  rw [violation?, Option.or_eq_none_iff] at sound
  exact sound_of_mem_among sound.2 member

/-! ### Every line has a route -/

variable {sender : Sender} {acceptable : Cursor → Bool} {place : Cursor}

theorem refuses_or_takes (sender : Sender) (acceptable : Cursor → Bool) (place : Cursor)
    (children : List (Node ω)) :
    (∀ child ∈ children, child.Refuses sender acceptable place) ∨
      ∃ earlier child later, children = earlier ++ child :: later ∧
        (∀ other ∈ earlier, other.Refuses sender acceptable place) ∧
        ∃ binding after, child.Takes sender acceptable place binding after := by
  induction children with
  | nil => exact .inl fun child member => nomatch member
  | cons first rest inductionHypothesis =>
      by_cases takes : ∃ binding after, first.Takes sender acceptable place binding after
      · exact .inr ⟨[], first, rest, rfl, by simp, takes⟩
      have refuses : first.Refuses sender acceptable place :=
        fun binding after taken => takes ⟨binding, after, taken⟩
      rcases inductionHypothesis with refused | ⟨earlier, child, later, rfl, refused, taken⟩
      · exact .inl (List.forall_mem_cons.mpr ⟨refuses, refused⟩)
      · exact .inr ⟨first :: earlier, child, later, rfl,
          List.forall_mem_cons.mpr ⟨refuses, refused⟩, taken⟩

theorem sizeOf_lt_of_mem_children {node child : Node ω} (member : child ∈ node.children) :
    sizeOf child < sizeOf node := by
  obtain ⟨segment, executor, requirement, children⟩ := node
  have smaller := List.sizeOf_lt_of_mem member
  simp only [node.sizeOf_spec]
  simp only [Node.children] at smaller
  omega

theorem exists_follows (sender : Sender) (acceptable : Cursor → Bool) (node : Node ω)
    (cursor : Cursor) : ∃ route, node.Follows sender acceptable cursor route := by
  by_cases ended : cursor.skipBlanks.atEnd
  · exact ⟨_, .exhausted ended⟩
  rcases refuses_or_takes sender acceptable cursor.skipBlanks node.children with
    refused | ⟨earlier, child, later, children, refused, binding, after, taken⟩
  · exact ⟨_, .stuck ended refused⟩
  · have smaller : sizeOf child < sizeOf node :=
      sizeOf_lt_of_mem_children (mem_of_split children)
    obtain ⟨route, rest⟩ := exists_follows sender acceptable child after
    exact ⟨_, .step ended children refused taken rest⟩
termination_by sizeOf node

/-! ### The walk of a line that is executed -/

theorem lastFault_cons (child : Node ω) (rest : List (Node ω)) :
    lastFault sender place (child :: rest) =
      (lastFault sender place rest).or
        (if child.visibleTo sender then child.segment.fault? place else none) := by
  unfold lastFault
  by_cases visible : child.visibleTo sender
  · cases fault : child.segment.fault? place with
    | none => simp [visible, fault]
    | some error => simp [visible, fault, List.getLast?_cons]
  · simp [visible]

variable (walk : Walk ω) (executor : Option (Executor ω)) (cause : Option DecodeError)
  {child : Node ω} {binding : Option (String × Value)} {after : Cursor}

theorem descend_eq (node : Node ω) :
    node.descend sender walk executor =
      if walk.skipBlanks.cursor.atEnd then ⟨walk.skipBlanks, executor, .exhausted⟩
      else descendAmong sender walk.skipBlanks executor none node.children := by
  cases node
  rw [descend, Node.children]

theorem descendAmong_of_takes (later : List (Node ω))
    (taken : child.Takes sender Cursor.atBoundary walk.cursor binding after) :
    descendAmong sender walk executor cause (child :: later) =
      child.descend sender (walk.enter child ⟨after, walk.arguments.bindAny binding⟩)
        (child.executor.or executor) := by
  rw [descendAmong, if_pos taken.visible]
  rcases child.segment.attempt_cases walk.toReading with
    ⟨otherBinding, otherAfter, reads, _, matched⟩ | ⟨refused, _⟩
  · obtain ⟨rfl, rfl⟩ := taken.reads.unique reads
    rw [matched]
  · have accepted := taken.accepted
    rw [refused _ _ taken.reads] at accepted
    exact absurd accepted Bool.false_ne_true

/-- Children that refuse a line leave only their faults behind. -/
theorem descendAmong_append {earlier : List (Node ω)} (rest : List (Node ω))
    (refused : ∀ child ∈ earlier, child.Refuses sender Cursor.atBoundary walk.cursor) :
    descendAmong sender walk executor cause (earlier ++ rest) =
      descendAmong sender walk executor ((lastFault sender walk.cursor earlier).or cause) rest := by
  induction earlier generalizing cause with
  | nil => rfl
  | cons child earlier inductionHypothesis =>
      have refuses := refused child List.mem_cons_self
      have rest_eq := fun cause => inductionHypothesis cause fun other member =>
        refused other (List.mem_cons_of_mem _ member)
      rw [List.cons_append, descendAmong, lastFault_cons]
      by_cases visible : child.visibleTo sender
      · rw [if_pos visible, if_pos visible]
        rcases child.segment.attempt_cases walk.toReading with
          ⟨binding, after, reads, ends, _⟩ | ⟨_, rejected⟩
        · exact absurd ⟨visible, reads, ends⟩ (refuses binding after)
        · rw [rejected, Option.or_assoc]
          exact rest_eq _
      · rw [if_neg visible, if_neg visible, rest_eq, Option.or_none]

theorem descendAmong_of_refuses {children : List (Node ω)}
    (refused : ∀ child ∈ children, child.Refuses sender Cursor.atBoundary walk.cursor) :
    descendAmong sender walk executor none children =
      ⟨walk, executor, .stuck (lastFault sender walk.cursor children)⟩ := by
  have left := descendAmong_append walk executor none [] refused
  rwa [List.append_nil, Option.or_none, descendAmong] at left

/-- A line that is executed takes its route up to a boundary behind each part. -/
theorem descend_of_follows {node : Node ω} {cursor : Cursor} {bound : List String}
    {route : Route ω} (follows : node.Follows sender Cursor.atBoundary cursor route)
    (starts : walk.cursor = cursor) (sound : node.violation? bound = none)
    (within : walk.arguments.Within (node.segment.bind bound)) :
    node.descend sender walk executor =
      ⟨⟨⟨route.place, walk.arguments ++ route.arguments⟩, walk.nodes ++ route.nodes⟩,
        route.executor?.or executor, route.ending⟩ := by
  induction follows generalizing walk executor bound with
  | exhausted ended =>
      subst starts
      have ended : walk.skipBlanks.cursor.atEnd := ended
      rw [descend_eq, if_pos ended]
      simp [Walk.skipBlanks]
  | @stuck node _ more refused =>
      subst starts
      have more : ¬ walk.skipBlanks.cursor.atEnd := more
      rw [descend_eq, if_neg more, descendAmong_of_refuses _ _ refused]
      simp [Walk.skipBlanks]
  | @step node child earlier later _ after binding route more children refused taken _
      inductionHypothesis =>
      subst starts
      have more : ¬ walk.skipBlanks.cursor.atEnd := more
      have childSound := child_sound sound (mem_of_split children)
      obtain ⟨bindAny, childWithin, _⟩ := taken.reads.bindAny_eq (segment_sound childSound) within
      have entered := inductionHypothesis
        (walk.skipBlanks.enter child ⟨after, walk.arguments.bindAny binding⟩)
        (child.executor.or executor) rfl childSound (by rwa [← bindAny] at childWithin)
      rw [descend_eq, if_neg more, children, descendAmong_append _ _ _ _ refused,
        descendAmong_of_takes _ _ _ _ taken]
      refine entered.trans ?_
      simp [Walk.enter, Walk.skipBlanks, bindAny, Option.or_assoc]

/-! ### The walk of a line that is completed -/

theorem replay_eq (node : Node ω) :
    node.replay sender walk =
      if walk.skipBlanks.cursor.atEnd then walk.skipBlanks
      else replayAmong sender walk.skipBlanks node.children := by
  cases node
  rw [replay, Node.children]

theorem replayAmong_of_takes (later : List (Node ω))
    (taken : child.Takes sender Cursor.atBlank walk.cursor binding after) :
    replayAmong sender walk (child :: later) =
      child.replay sender (walk.enter child ⟨after, walk.arguments.bindAny binding⟩) := by
  rw [replayAmong, if_pos taken.visible]
  have ends := taken.of_atBlank.accepted
  rcases child.segment.attempt_cases walk.toReading with
    ⟨otherBinding, otherAfter, reads, _, matched⟩ | ⟨refused, _⟩
  · obtain ⟨rfl, rfl⟩ := taken.reads.unique reads
    rw [matched]
    exact if_pos taken.accepted
  · rw [refused _ _ taken.reads] at ends
    exact absurd ends Bool.false_ne_true

/-- Children that refuse a line leave nothing behind: the value of a match at the end of the line is
taken back. -/
theorem replayAmong_append {earlier : List (Node ω)} {bound : List String} (rest : List (Node ω))
    (sound : ∀ child ∈ earlier, child.violation? bound = none)
    (within : walk.arguments.Within bound)
    (refused : ∀ child ∈ earlier, child.Refuses sender Cursor.atBlank walk.cursor) :
    replayAmong sender walk (earlier ++ rest) = replayAmong sender walk rest := by
  induction earlier with
  | nil => rfl
  | cons child earlier inductionHypothesis =>
      have refuses := refused child List.mem_cons_self
      have rest_eq := inductionHypothesis
        (fun other member => sound other (List.mem_cons_of_mem _ member))
        (fun other member => refused other (List.mem_cons_of_mem _ member))
      rw [List.cons_append, replayAmong, ← rest_eq]
      by_cases visible : child.visibleTo sender
      · rw [if_pos visible]
        rcases child.segment.attempt_cases walk.toReading with
          ⟨binding, after, reads, _, matched⟩ | ⟨_, rejected⟩
        · have goesOn : ¬ after.atBlank := fun accepted =>
            refuses binding after ⟨visible, reads, accepted⟩
          have childSound := segment_sound (sound child List.mem_cons_self)
          obtain ⟨_, _, unbind⟩ := reads.bindAny_eq childSound within
          rw [matched]
          simp only [goesOn, unbind, Bool.false_eq_true, ↓reduceIte]
        · rw [rejected]
      · rw [if_neg visible]

theorem replayAmong_of_refuses {children : List (Node ω)} {bound : List String}
    (sound : ∀ child ∈ children, child.violation? bound = none)
    (within : walk.arguments.Within bound)
    (refused : ∀ child ∈ children, child.Refuses sender Cursor.atBlank walk.cursor) :
    replayAmong sender walk children = walk := by
  have left := replayAmong_append walk [] sound within refused
  rwa [List.append_nil, replayAmong] at left

/-- A line that is completed takes its route up to a blank behind each part. -/
theorem replay_of_follows {node : Node ω} {cursor : Cursor} {bound : List String}
    {route : Route ω} (follows : node.Follows sender Cursor.atBlank cursor route)
    (starts : walk.cursor = cursor) (sound : node.violation? bound = none)
    (within : walk.arguments.Within (node.segment.bind bound)) :
    node.replay sender walk =
      ⟨⟨route.place, walk.arguments ++ route.arguments⟩, walk.nodes ++ route.nodes⟩ := by
  induction follows generalizing walk bound with
  | exhausted ended =>
      subst starts
      have ended : walk.skipBlanks.cursor.atEnd := ended
      rw [replay_eq, if_pos ended]
      simp [Walk.skipBlanks]
  | @stuck node _ more refused =>
      subst starts
      have more : ¬ walk.skipBlanks.cursor.atEnd := more
      have childrenSound : ∀ child ∈ node.children,
          child.violation? (node.segment.bind bound) = none :=
        fun _ member => child_sound sound member
      rw [replay_eq, if_neg more,
        replayAmong_of_refuses walk.skipBlanks childrenSound within refused]
      simp [Walk.skipBlanks]
  | @step node child earlier later _ after binding route more children refused taken _
      inductionHypothesis =>
      subst starts
      have more : ¬ walk.skipBlanks.cursor.atEnd := more
      have childSound := child_sound sound (mem_of_split children)
      have earlierSound : ∀ other ∈ earlier, other.violation? (node.segment.bind bound) = none :=
        fun other member => child_sound sound (children ▸ List.mem_append_left _ member)
      obtain ⟨bindAny, childWithin, _⟩ := taken.reads.bindAny_eq (segment_sound childSound) within
      have entered := inductionHypothesis
        (walk.skipBlanks.enter child ⟨after, walk.arguments.bindAny binding⟩)
        rfl childSound (by rwa [← bindAny] at childWithin)
      rw [replay_eq, if_neg more, children,
        replayAmong_append walk.skipBlanks _ earlierSound within refused,
        replayAmong_of_takes _ _ taken]
      refine entered.trans ?_
      simp [Walk.enter, Walk.skipBlanks, bindAny]

end Node

namespace Command

variable {ω : Type} (command : Command ω) {sender : Sender} {cursor : Cursor} {route : Route ω}

theorem root_sound : command.root.violation? [] = none :=
  (Option.or_eq_none_iff.mp command.sound).1

theorem descend_of_follows (follows : command.root.Follows sender Cursor.atBoundary cursor route) :
    command.descend sender cursor =
      ⟨⟨⟨route.place, route.arguments⟩, command.root :: route.nodes⟩,
        route.executor?.or command.root.executor, route.ending⟩ :=
  Node.descend_of_follows (Walk.start command.root cursor) command.root.executor follows rfl
    command.root_sound (Arguments.within_nil _)

theorem replay_of_follows (follows : command.root.Follows sender Cursor.atBlank cursor route) :
    command.replay sender cursor =
      ⟨⟨route.place, route.arguments⟩, command.root :: route.nodes⟩ :=
  Node.replay_of_follows (Walk.start command.root cursor) follows rfl command.root_sound
    (Arguments.within_nil _)

end Command

end CommandShell
