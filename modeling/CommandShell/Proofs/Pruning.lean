/-
This file shows that hidden nodes do not interfere. Pruning removes the nodes that a sender does not
see, and the sender gets the same answers from a command and from the pruned command.
-/

import CommandShell.Proofs.Answer
import CommandShell.Proofs.Transport

namespace CommandShell

open Argument Text

/-- A segment that may be followed by others may also be the last. -/
theorem Segment.sound_of_last {segment : Segment} {bound : List String} {isLast other : Bool}
    (sound : segment.violation? bound isLast = none) (last : isLast → other) :
    segment.violation? bound other = none := by
  cases segment with
  | literal text => exact sound
  | argument name kind provider =>
      cases other with
      | true => simpa [violation?] using notMem_of_sound sound
      | false =>
          cases isLast with
          | true => exact absurd (last rfl) Bool.false_ne_true
          | false => exact sound

namespace Node

variable {ω : Type}

mutual

/-- This removes the children that the sender does not see, with all that stands below them. -/
def prune (sender : Sender) : Node ω → Node ω
  | .node segment executor requirement children =>
      .node segment executor requirement (pruneAll sender children)

def pruneAll (sender : Sender) : List (Node ω) → List (Node ω)
  | [] => []
  | child :: rest =>
      if child.visibleTo sender then child.prune sender :: pruneAll sender rest
      else pruneAll sender rest

end

variable (sender : Sender)

@[simp]
theorem segment_prune (node : Node ω) : (node.prune sender).segment = node.segment := by
  cases node
  rw [prune, segment, segment]

@[simp]
theorem executor_prune (node : Node ω) : (node.prune sender).executor = node.executor := by
  cases node
  rw [prune, executor, executor]

@[simp]
theorem visibleTo_prune (node : Node ω) :
    (node.prune sender).visibleTo sender = node.visibleTo sender := by
  cases node
  rw [prune, visibleTo, visibleTo, requirement, requirement]

theorem pruneAll_eq (children : List (Node ω)) :
    pruneAll sender children = (children.filter (visibleTo sender)).map (prune sender) := by
  induction children with
  | nil => rw [pruneAll, List.filter_nil, List.map_nil]
  | cons child rest inductionHypothesis =>
      rw [pruneAll, inductionHypothesis]
      by_cases visible : child.visibleTo sender <;> simp [visible]

theorem children_prune (node : Node ω) :
    (node.prune sender).children = (node.visibleChildren sender).map (prune sender) := by
  cases node
  rw [prune, children, pruneAll_eq, visibleChildren, children]

/-- All children that are left are visible. -/
theorem visibleChildren_prune (node : Node ω) :
    (node.prune sender).visibleChildren sender =
      (node.visibleChildren sender).map (prune sender) := by
  have same : visibleTo sender ∘ prune sender = visibleTo (ω := ω) sender := by
    funext child
    exact visibleTo_prune sender child
  rw [visibleChildren, children_prune, List.filter_map, same, visibleChildren, List.filter_filter]
  simp

/-! ### Soundness -/

theorem isEmpty_pruneAll {children : List (Node ω)} (empty : children.isEmpty) :
    (pruneAll sender children).isEmpty := by
  rw [List.isEmpty_iff] at empty
  rw [empty, pruneAll, List.isEmpty_nil]

mutual

theorem prune_sound (bound : List String) : ∀ node : Node ω, node.violation? bound = none →
    (node.prune sender).violation? bound = none
  | .node segment executor requirement children, sound => by
      rw [violation?, Option.or_eq_none_iff] at sound
      rw [prune, violation?, Option.or_eq_none_iff]
      exact ⟨segment.sound_of_last sound.1 (isEmpty_pruneAll sender),
        pruneAll_sound _ children sound.2⟩

theorem pruneAll_sound (bound : List String) : ∀ children : List (Node ω),
    violationAmong? bound children = none →
    violationAmong? bound (pruneAll sender children) = none
  | [], _ => by rw [pruneAll, violationAmong?]
  | child :: rest, sound => by
      rw [violationAmong?, Option.or_eq_none_iff] at sound
      have restSound := pruneAll_sound bound rest sound.2
      rw [pruneAll]
      by_cases visible : child.visibleTo sender
      · rw [if_pos visible, violationAmong?, Option.or_eq_none_iff]
        exact ⟨prune_sound bound child sound.1, restSound⟩
      · rwa [if_neg visible]

end

/-! ### Descriptions -/

mutual

theorem continuation?_prune : ∀ node : Node ω,
    (node.prune sender).continuation? sender = node.continuation? sender
  | .node segment executor requirement children => by
      rw [prune, continuation?, continuation?, usagesAmong_pruneAll children]

theorem usagesAmong_pruneAll : ∀ children : List (Node ω),
    usagesAmong sender (pruneAll sender children) = usagesAmong sender children
  | [] => by rw [pruneAll]
  | child :: rest => by
      rw [pruneAll]
      by_cases visible : child.visibleTo sender
      · simp only [visible, ↓reduceIte, usagesAmong, visibleTo_prune, segment_prune,
          continuation?_prune child, usagesAmong_pruneAll rest]
      · simp only [visible, Bool.false_eq_true, ↓reduceIte, usagesAmong, usagesAmong_pruneAll rest]

end

mutual

theorem executableLines_prune : ∀ (node : Node ω) (lead : String),
    (node.prune sender).executableLines sender lead = node.executableLines sender lead
  | .node segment executor requirement children, lead => by
      rw [prune, executableLines, executableLines, executableLinesAmong_pruneAll children]

theorem executableLinesAmong_pruneAll : ∀ (children : List (Node ω)) (lead : String),
    executableLinesAmong sender lead (pruneAll sender children) =
      executableLinesAmong sender lead children
  | [], _ => by rw [pruneAll]
  | child :: rest, lead => by
      rw [pruneAll]
      by_cases visible : child.visibleTo sender
      · simp only [visible, ↓reduceIte, executableLinesAmong, visibleTo_prune, segment_prune,
          executableLines_prune child, executableLinesAmong_pruneAll rest]
      · simp only [visible, Bool.false_eq_true, ↓reduceIte, executableLinesAmong,
          executableLinesAmong_pruneAll rest, List.nil_append]

end

/-! ### Routes -/

theorem keeps_prune : @Keeps ω ω sender (prune sender) where
  bare_eq node := by rw [segment_prune]
  visibleTo_eq := visibleTo_prune sender
  visibleChildren_eq := visibleChildren_prune sender

end Node

/-- This is the route through the pruned tree. -/
def Route.prune {ω : Type} (sender : Sender) (route : Route ω) : Route ω :=
  { route with steps := route.steps.map fun step => { step with node := step.node.prune sender } }

section

variable {ω : Type} (sender : Sender) (route : Route ω)

@[simp]
theorem Route.place_prune : (route.prune sender).place = route.place := rfl

@[simp]
theorem Route.ending_prune : (route.prune sender).ending = route.ending := rfl

@[simp]
theorem Route.nodes_prune : (route.prune sender).nodes = route.nodes.map (Node.prune sender) :=
  route.nodes_map (Node.prune sender)

@[simp]
theorem Route.arguments_prune : (route.prune sender).arguments = route.arguments :=
  route.arguments_map (Node.prune sender)

@[simp]
theorem Route.executor?_prune : (route.prune sender).executor? = route.executor? :=
  route.executor?_map (Node.executor_prune sender)

end

/-- A line takes the same route through the pruned tree. -/
theorem Node.Follows.prune {ω : Type} {sender : Sender} {acceptable : Cursor → Bool}
    {node : Node ω} {cursor : Cursor} {route : Route ω}
    (follows : node.Follows sender acceptable cursor route) :
    (node.prune sender).Follows sender acceptable cursor (route.prune sender) :=
  follows.map (Node.keeps_prune sender)

namespace Command

variable {ω : Type}

/-- This removes all nodes that the sender does not see. -/
def prune (sender : Sender) (command : Command ω) : Command ω where
  toDraft := { command.toDraft with children := Node.pruneAll sender command.children }
  sound := by
    obtain ⟨rootSound, aliasesSound⟩ := Option.or_eq_none_iff.mp command.sound
    have pruned := Node.prune_sound sender [] command.root rootSound
    rw [Draft.root, Node.prune] at pruned
    exact Option.or_eq_none_iff.mpr ⟨pruned, aliasesSound⟩

theorem root_prune (sender : Sender) (command : Command ω) :
    (command.prune sender).root = command.root.prune sender := by
  rw [Draft.root, Draft.root, Node.prune]
  rfl

variable (sender : Sender) (command : Command ω)

theorem usage_prune : (command.prune sender).usage sender = command.usage sender := by
  rw [Draft.usage, Draft.usage, root_prune, Node.continuation?_prune]
  rfl

theorem executableLines_prune :
    (command.prune sender).executableLines sender = command.executableLines sender := by
  rw [Draft.executableLines, Draft.executableLines, root_prune, Node.executableLines_prune]
  rfl

/-- A line is walked to the same end, with the same arguments and executor. -/
theorem descend_prune (cursor : Cursor) :
    let descent := command.descend sender cursor
    (command.prune sender).descend sender cursor =
      { descent with nodes := descent.nodes.map (Node.prune sender) } := by
  obtain ⟨route, follows⟩ := Node.exists_follows sender Cursor.atBoundary command.root cursor
  have pruned := follows.prune
  rw [← root_prune] at pruned
  have left := (command.prune sender).descend_of_follows pruned
  rw [left, command.descend_of_follows follows, root_prune]
  simp

theorem replay_prune (cursor : Cursor) :
    let walk := command.replay sender cursor
    (command.prune sender).replay sender cursor =
      { walk with nodes := walk.nodes.map (Node.prune sender) } := by
  obtain ⟨route, follows⟩ := Node.exists_follows sender Cursor.atBlank command.root cursor
  have pruned := follows.prune
  rw [← root_prune] at pruned
  have left := (command.prune sender).replay_of_follows pruned
  rw [left, command.replay_of_follows follows, root_prune]
  simp

theorem resolve_prune (line : String) :
    (command.prune sender).resolve sender line = command.resolve sender line := by
  rw [resolve, resolve, descend_prune, usage_prune]
  rfl

theorem lastNode_prune (root : Node ω) (walk : Walk ω) :
    ({ walk with nodes := walk.nodes.map (Node.prune sender) } : Walk ω).lastNode
      (root.prune sender) = (walk.lastNode root).prune sender :=
  List.getLastD_map

theorem suggestions_prune (line : String) :
    (command.prune sender).suggestions sender line = command.suggestions sender line := by
  have usable : (command.prune sender).usableBy sender = command.usableBy sender := rfl
  have labels : (command.prune sender).labels = command.labels := rfl
  have hasLabel : (command.prune sender).hasLabel = command.hasLabel := rfl
  have heading : (command.prune sender).heading = command.heading := rfl
  unfold suggestions
  simp only [usable, labels, hasLabel, heading, replay_prune, root_prune, lastNode_prune,
    Node.visibleChildren_prune]
  generalize ((command.replay sender (Cursor.ofLine line).skipWord).lastNode
    command.root).visibleChildren sender = children
  cases children with
  | nil => rfl
  | cons first rest => simp [Function.comp_def]

theorem suggestionsAt_prune (line : String) (offset : Nat) :
    (command.prune sender).suggestionsAt sender line offset =
      command.suggestionsAt sender line offset :=
  suggestions_prune sender command (lineBefore line offset)

/-- A sender gets the same answers from both commands. -/
structure Indistinguishable (sender : Sender) (command other : Command ω) : Prop where
  resolve_eq : ∀ line, command.resolve sender line = other.resolve sender line
  execute_eq : ∀ line, command.execute sender line = other.execute sender line
  suggestions_eq : ∀ line, command.suggestions sender line = other.suggestions sender line
  suggestionsAt_eq : ∀ line offset,
    command.suggestionsAt sender line offset = other.suggestionsAt sender line offset
  usage_eq : command.usage sender = other.usage sender
  executableLines_eq : command.executableLines sender = other.executableLines sender

namespace Indistinguishable

variable {sender : Sender} {first second third : Command ω}

theorem symm (same : Indistinguishable sender first second) :
    Indistinguishable sender second first where
  resolve_eq line := (same.resolve_eq line).symm
  execute_eq line := (same.execute_eq line).symm
  suggestions_eq line := (same.suggestions_eq line).symm
  suggestionsAt_eq line offset := (same.suggestionsAt_eq line offset).symm
  usage_eq := same.usage_eq.symm
  executableLines_eq := same.executableLines_eq.symm

theorem trans (same : Indistinguishable sender first second)
    (others : Indistinguishable sender second third) : Indistinguishable sender first third where
  resolve_eq line := (same.resolve_eq line).trans (others.resolve_eq line)
  execute_eq line := (same.execute_eq line).trans (others.execute_eq line)
  suggestions_eq line := (same.suggestions_eq line).trans (others.suggestions_eq line)
  suggestionsAt_eq line offset :=
    (same.suggestionsAt_eq line offset).trans (others.suggestionsAt_eq line offset)
  usage_eq := same.usage_eq.trans others.usage_eq
  executableLines_eq := same.executableLines_eq.trans others.executableLines_eq

end Indistinguishable

theorem prune_same_answers : Indistinguishable sender (command.prune sender) command where
  resolve_eq := resolve_prune sender command
  execute_eq line := congrArg (·.map Call.run) (resolve_prune sender command line)
  suggestions_eq := suggestions_prune sender command
  suggestionsAt_eq := suggestionsAt_prune sender command
  usage_eq := usage_prune sender command
  executableLines_eq := executableLines_prune sender command

/-- Hidden nodes do not interfere: commands that differ only in nodes that a sender does not see
give it the same answers. -/
theorem indistinguishable_prune :
    Indistinguishable sender command (command.prune sender) ∧
      ∀ other : Command ω, other.prune sender = command.prune sender →
        Indistinguishable sender command other := by
  have same := prune_same_answers sender command
  refine ⟨same.symm, fun other pruned => ?_⟩
  have others := prune_same_answers sender other
  rw [pruned] at others
  exact same.symm.trans others

/-- Only operators see the code of a vault. -/
def vault (code : String) : Draft Unit :=
  .ofName "vault" [
    (Node.literal "look").executing fun _ => (),
    ((Node.literal code).executing fun _ => ()).requiring Sender.operator]

def firstVault : Command Unit := ⟨vault "seven", by decide⟩

def secondVault : Command Unit := ⟨vault "eleven", by decide⟩

theorem indistinguishable_vaults :
    let guest : Sender := ⟨"guest", [], false⟩
    secondVault.prune guest = firstVault.prune guest ∧
      Indistinguishable guest firstVault secondVault := by
  intro guest
  have same : secondVault.prune guest = firstVault.prune guest := rfl
  exact ⟨same, (indistinguishable_prune guest firstVault).2 secondVault same⟩

end Command

end CommandShell
