/-
This file says what is suggested for a line: labels while the first word is typed, and afterwards
what the visible children offer where the route of the line ends. Completing the line suggests just
this.
-/

import CommandShell.Proofs.Answer
import CommandShell.Proofs.Offer
import CommandShell.Proofs.Transport

namespace CommandShell

open Argument Text

/-! ### What is suggested -/

namespace Command

variable {ω : Type}

/-- A visible child of the node where the route of a line ends offers a batch. It learns of the
arguments on the route and of no others. -/
inductive Offers (command : Command ω) (sender : Sender) (line : String) (batch : Batch) :
    Prop where
  | child {label : String} {behind : Cursor} {route : Route ω} {child : Node ω}
      (admits : command.Admits sender line label behind) (separated : behind.atBlank)
      (follows : command.root.Follows sender Cursor.atBlank behind route)
      (member : child ∈ (route.nodes.getLastD command.root).visibleChildren sender)
      (offers : child.segment.Offers ⟨sender, line, label, route.arguments, command.heading⟩
        route.place batch) : Offers command sender line batch

/-- These are the suggestions for a line: labels while the first word is typed, and all that is
offered behind a label. -/
inductive Suggests (command : Command ω) (sender : Sender) (line : String) : Batch → Prop where
  | rejected (rejected : command.Rejects sender) :
      Suggests command sender line (.empty (byteLength line.toList))
  | labels {label : String} {behind : Cursor} {batch : Batch} (usable : ¬ command.Rejects sender)
      (labelled : Labelled line label behind) (typing : behind.atBlank = false)
      (continues : batch.Continues (Cursor.ofLine line) command.labels) :
      Suggests command sender line batch
  | unknown {label : String} {behind : Cursor} (usable : ¬ command.Rejects sender)
      (labelled : Labelled line label behind) (separated : behind.atBlank)
      (unknown : label ∉ command.labels) :
      Suggests command sender line (.empty (byteLength line.toList))
  | nothing {label : String} {behind : Cursor} {route : Route ω}
      (admits : command.Admits sender line label behind) (separated : behind.atBlank)
      (follows : command.root.Follows sender Cursor.atBlank behind route)
      (childless : (route.nodes.getLastD command.root).visibleChildren sender = []) :
      Suggests command sender line (.empty route.place.offset)
  | children {batches : List Batch} {batch : Batch} (some : batches ≠ [])
      (offered : ∀ other, other ∈ batches ↔ command.Offers sender line other)
      (joins : batch.Joins batches) : Suggests command sender line batch

variable {command : Command ω} {sender : Sender} {line label : String} {behind : Cursor}
  {route : Route ω} {batch : Batch}

theorem suggestions_of_rejects (rejected : command.Rejects sender) :
    command.suggestions sender line = .empty (byteLength line.toList) := by
  rw [rejects_iff] at rejected
  simp [suggestions, rejected]

theorem suggestions_of_typing (usable : ¬ command.Rejects sender)
    (labelled : Labelled line label behind) (typing : behind.atBlank = false) :
    command.suggestions sender line =
      ((Suggester.behind (Cursor.ofLine line)).suggestAll command.labels).batch := by
  obtain ⟨rfl, rfl⟩ := Labelled.iff_eq.mp labelled
  rw [not_rejects_iff] at usable
  simp [suggestions, usable, typing, Suggester.ofLine_zero]

theorem suggestions_of_unknown (usable : ¬ command.Rejects sender)
    (labelled : Labelled line label behind) (separated : behind.atBlank)
    (unknown : label ∉ command.labels) :
    command.suggestions sender line = .empty (byteLength line.toList) := by
  obtain ⟨rfl, rfl⟩ := Labelled.iff_eq.mp labelled
  rw [not_rejects_iff] at usable
  rw [← hasLabel_iff, Bool.not_eq_true] at unknown
  simp [suggestions, usable, separated, unknown]

section Admitted

variable (admits : command.Admits sender line label behind) (separated : behind.atBlank)
  (follows : command.root.Follows sender Cursor.atBlank behind route)

include admits separated follows

/-- Behind a label the batches of the visible children are merged where the route ends. -/
theorem suggestions_of_admits :
    command.suggestions sender line =
      match (route.nodes.getLastD command.root).visibleChildren sender with
      | [] => .empty route.place.offset
      | children => .merge (children.map fun child => child.segment.suggestions
          ⟨sender, line, label, route.arguments, command.heading⟩
          (Suggester.behind route.place)) := by
  obtain ⟨labelled, known, usable⟩ := admits
  obtain ⟨rfl, rfl⟩ := Labelled.iff_eq.mp labelled
  rw [← hasLabel_iff] at known
  rw [not_rejects_iff] at usable
  have line_eq : route.place.line = line.toList :=
    ((Cursor.ofLine line).reaches_skipWord.trans follows.reaches).line_eq
  have replayed := command.replay_of_follows follows
  cases children : (route.nodes.getLastD command.root).visibleChildren sender <;>
    simp only [suggestions, usable, separated, known, replayed, Walk.lastNode, children,
      List.getLastD_cons, Suggester.ofLine_offset line_eq, Bool.not_true, Bool.false_eq_true,
      ↓reduceIte]

/-- Where the route ends above visible children the suggestions join what these suggest. -/
theorem suggestions_joins
    (some : (route.nodes.getLastD command.root).visibleChildren sender ≠ []) :
    (command.suggestions sender line).Joins
      (((route.nodes.getLastD command.root).visibleChildren sender).map fun child =>
        child.segment.suggestions ⟨sender, line, label, route.arguments, command.heading⟩
          (Suggester.behind route.place)) := by
  obtain ⟨first, rest, children⟩ := List.exists_cons_of_ne_nil some
  rw [suggestions_of_admits admits separated follows, children]
  exact Batch.joins_merge (List.cons_ne_nil _ _)

/-- The batches that are merged are those that are offered. -/
theorem mem_map_suggestions_iff :
    batch ∈ ((route.nodes.getLastD command.root).visibleChildren sender).map (fun child =>
        child.segment.suggestions ⟨sender, line, label, route.arguments, command.heading⟩
          (Suggester.behind route.place)) ↔
      command.Offers sender line batch := by
  constructor
  · intro member
    obtain ⟨child, among, rfl⟩ := List.mem_map.mp member
    exact .child admits separated follows among (child.segment.offers_suggestions _ _)
  · rintro ⟨otherAdmits, _, otherFollows, among, offers⟩
    obtain ⟨rfl, rfl⟩ := admits.labelled.unique otherAdmits.labelled
    obtain rfl := follows.unique otherFollows
    exact List.mem_map.mpr ⟨_, among, (Segment.offers_iff.mp offers).symm⟩

end Admitted

theorem suggestions_of_suggests (suggests : command.Suggests sender line batch) :
    command.suggestions sender line = batch := by
  cases suggests with
  | rejected rejected => exact suggestions_of_rejects rejected
  | labels usable labelled typing continues =>
      rw [suggestions_of_typing usable labelled typing]
      exact (Suggester.batch_continues _ _).unique continues
  | unknown usable labelled separated unknown =>
      exact suggestions_of_unknown usable labelled separated unknown
  | nothing admits separated follows childless =>
      rw [suggestions_of_admits admits separated follows, childless]
  | children some offered joins =>
      obtain ⟨first, rest, rfl⟩ := List.exists_cons_of_ne_nil some
      obtain ⟨admits, separated, follows, member, _⟩ := (offered first).mp List.mem_cons_self
      have sources := suggestions_joins admits separated follows (List.ne_nil_of_mem member)
      refine sources.unique (joins.congr fun other => ?_)
      exact (offered other).trans (mem_map_suggestions_iff admits separated follows).symm

theorem exists_suggests (command : Command ω) (sender : Sender) (line : String) :
    ∃ batch, command.Suggests sender line batch := by
  have labelled := Labelled.ofLine line
  by_cases rejected : command.Rejects sender
  · exact ⟨_, .rejected rejected⟩
  cases separated : (Cursor.ofLine line).skipWord.atBlank with
  | false => exact ⟨_, .labels rejected labelled separated (Suggester.batch_continues _ _)⟩
  | true =>
      by_cases unknown : String.ofList (Cursor.ofLine line).word ∉ command.labels
      · exact ⟨_, .unknown rejected labelled separated unknown⟩
      have admits : command.Admits sender line _ _ :=
        ⟨labelled, Decidable.of_not_not unknown, rejected⟩
      obtain ⟨route, follows⟩ := Node.exists_follows sender Cursor.atBlank command.root
        (Cursor.ofLine line).skipWord
      by_cases childless : (route.nodes.getLastD command.root).visibleChildren sender = []
      · exact ⟨_, .nothing admits separated follows childless⟩
      · exact ⟨_, .children (mt List.map_eq_nil_iff.mp childless)
          (fun _ => mem_map_suggestions_iff admits separated follows)
          (Batch.joins_merge (mt List.map_eq_nil_iff.mp childless))⟩

/-- What is suggested behind a label has been offered. -/
theorem exists_offer {suggestion : Suggestion} (labelled : Labelled line label behind)
    (separated : behind.atBlank)
    (suggested : suggestion ∈ (command.suggestions sender line).items) :
    ∃ batch, command.Offers sender line batch ∧ suggestion ∈ batch.items := by
  obtain ⟨batch, suggests⟩ := exists_suggests command sender line
  rw [suggestions_of_suggests suggests] at suggested
  cases suggests with
  | rejected | unknown | nothing => cases suggested
  | labels _ otherLabelled typing _ =>
      obtain ⟨rfl, rfl⟩ := labelled.unique otherLabelled
      exact absurd (separated.symm.trans typing) (by decide)
  | children _ offered joins =>
      have chosen := (joins.mem_iff suggestion).mp suggested
      obtain ⟨source, among, inside⟩ := List.mem_flatMap.mp chosen.mem
      exact ⟨source, (offered source).mp among, inside⟩

end Command

/-! ### Providers that are not asked -/

namespace Node

variable {ω : Type}

mutual

/-- This is the tree without providers. -/
def bare : Node ω → Node ω
  | .node segment executor requirement children =>
      .node segment.bare executor requirement (bareAll children)

def bareAll : List (Node ω) → List (Node ω)
  | [] => []
  | child :: rest => child.bare :: bareAll rest

end

theorem bareAll_eq (children : List (Node ω)) : bareAll children = children.map bare := by
  induction children with
  | nil => rw [bareAll, List.map_nil]
  | cons child rest inductionHypothesis => rw [bareAll, inductionHypothesis, List.map_cons]

theorem segment_bare (node : Node ω) : node.bare.segment = node.segment.bare := by
  cases node
  rw [bare, segment, segment]

theorem visibleTo_bare (sender : Sender) (node : Node ω) :
    node.bare.visibleTo sender = node.visibleTo sender := by
  cases node
  rw [bare, visibleTo, visibleTo, requirement, requirement]

theorem visibleChildren_bare (sender : Sender) (node : Node ω) :
    node.bare.visibleChildren sender = (node.visibleChildren sender).map bare := by
  have same : visibleTo sender ∘ bare = visibleTo (ω := ω) sender := by
    funext child
    exact visibleTo_bare sender child
  cases node
  rw [bare, visibleChildren, children, bareAll_eq, List.filter_map, same, visibleChildren, children]

theorem keeps_bare (sender : Sender) : @Keeps ω ω sender bare where
  bare_eq node := by
    rw [segment_bare]
    cases node.segment <;> rfl
  visibleTo_eq := visibleTo_bare sender
  visibleChildren_eq := visibleChildren_bare sender

/-- A line takes the same route through trees that differ in providers only. -/
theorem Follows.exists_bare {sender : Sender} {acceptable : Cursor → Bool} {node other : Node ω}
    {cursor : Cursor} {route : Route ω} (follows : node.Follows sender acceptable cursor route)
    (same : other.bare = node.bare) :
    ∃ otherRoute, other.Follows sender acceptable cursor otherRoute ∧
      otherRoute.place = route.place ∧
        (otherRoute.nodes.getLastD other).bare = (route.nodes.getLastD node).bare := by
  obtain ⟨otherRoute, otherFollows⟩ := exists_follows sender acceptable other cursor
  have mapped := follows.map (keeps_bare sender)
  rw [← same] at mapped
  have unique := (otherFollows.map (keeps_bare sender)).unique mapped
  have nodes : otherRoute.nodes.map bare = route.nodes.map bare := by
    rw [← Route.nodes_map, unique, Route.nodes_map]
  refine ⟨otherRoute, otherFollows, ?_, ?_⟩
  · rw [← Route.place_map bare otherRoute, unique, Route.place_map]
  · calc (otherRoute.nodes.getLastD other).bare
        = (otherRoute.nodes.map bare).getLastD other.bare := List.getLastD_map.symm
      _ = (route.nodes.map bare).getLastD node.bare := by rw [nodes, same]
      _ = (route.nodes.getLastD node).bare := List.getLastD_map

end Node

namespace Command

variable {ω : Type} {command other : Command ω} {sender : Sender} {line : String} {batch : Batch}

/-- Commands that differ in providers only suggest the same where the same is offered. -/
theorem Suggests.of_offers (heading : other.heading = command.heading)
    (bare : other.root.bare = command.root.bare)
    (offers : ∀ batch, other.Offers sender line batch ↔ command.Offers sender line batch)
    (suggests : command.Suggests sender line batch) : other.Suggests sender line batch := by
  have rejects : other.Rejects sender ↔ command.Rejects sender := by
    have visible := congrArg (Node.visibleTo sender) bare
    rw [Node.visibleTo_bare, Node.visibleTo_bare] at visible
    rw [rejects_iff, rejects_iff, Draft.usableBy, Draft.usableBy, heading, visible]
  have labels : other.labels = command.labels := congrArg Heading.labels heading
  cases suggests with
  | rejected rejected => exact .rejected (rejects.mpr rejected)
  | labels usable labelled typing continues =>
      rw [← labels] at continues
      exact .labels (mt rejects.mp usable) labelled typing continues
  | unknown usable labelled separated unknown =>
      rw [← labels] at unknown
      exact .unknown (mt rejects.mp usable) labelled separated unknown
  | nothing admits separated follows childless =>
      obtain ⟨labelled, known, usable⟩ := admits
      rw [← labels] at known
      obtain ⟨route, otherFollows, place, last⟩ := follows.exists_bare bare
      have none := congrArg (Node.visibleChildren sender) last
      rw [Node.visibleChildren_bare, Node.visibleChildren_bare, childless] at none
      rw [← place]
      exact .nothing ⟨labelled, known, mt rejects.mp usable⟩ separated otherFollows
        (List.map_eq_nil_iff.mp none)
  | children some offered joins =>
      exact .children some (fun other => (offered other).trans (offers other).symm) joins

/-- The suggestions for a line are what is suggested for it. Providers other than those of the
visible children where its route ends are not asked. -/
theorem suggestions_eq_iff_suggests (command : Command ω) (sender : Sender) (line : String) :
    (∀ batch, command.suggestions sender line = batch ↔ command.Suggests sender line batch) ∧
      ∀ other : Command ω, other.heading = command.heading →
        other.root.bare = command.root.bare →
        (∀ batch, other.Offers sender line batch ↔ command.Offers sender line batch) →
          other.suggestions sender line = command.suggestions sender line := by
  obtain ⟨suggested, suggests⟩ := exists_suggests command sender line
  have known := suggestions_of_suggests suggests
  refine ⟨fun batch => ⟨?_, suggestions_of_suggests⟩, fun other heading bare offers => ?_⟩
  · rintro rfl
    rwa [← known] at suggests
  · rw [known]
    exact suggestions_of_suggests (suggests.of_offers heading bare offers)

/-- The room is asked for when the caller has been typed. -/
def calls (rooms : Provider) : Command Unit where
  toDraft := .ofName "call" [
    ((Node.argument "caller" .word).suggesting (Provider.fixed [("bob", none)])).followedBy [
      ((Node.argument "room" .word).suggesting rooms).executing fun _ => ()]]
  sound := by cbv

/-- While the caller is typed the rooms do not matter. -/
theorem suggestions_calls :
    let admin : Sender := ⟨"admin", [], true⟩
    let callers : Batch := .ofList ⟨5, 5, by decide⟩ [⟨⟨5, 5, by decide⟩, "bob", none⟩]
    (calls (Provider.fixed [])).suggestions admin "call " = callers ∧
      (calls (Provider.fixed [("attic", none)])).suggestions admin "call " = callers := by
  intro admin callers
  have offers : ∀ rooms batch, (calls rooms).Offers admin "call " batch ↔ batch = callers := by
    intro rooms batch
    have admits : (calls rooms).Admits admin "call " "call" ⟨"call".toList, [' ']⟩ :=
      ⟨Labelled.iff_eq.mpr ⟨by decide, by decide⟩, List.mem_cons_self, not_rejects_iff.mpr rfl⟩
    rw [← mem_map_suggestions_iff admits rfl (.exhausted rfl)]
    exact List.mem_singleton
  have some : [callers] ≠ [] := List.cons_ne_nil callers []
  have suggests : (calls (Provider.fixed [])).Suggests admin "call " callers :=
    .children some (fun batch => List.mem_singleton.trans (offers _ batch).symm)
      (Batch.joins_merge some)
  obtain ⟨iff, other⟩ := suggestions_eq_iff_suggests (calls (Provider.fixed [])) admin "call "
  have known := (iff callers).mpr suggests
  refine ⟨known, Eq.trans ?_ known⟩
  exact other _ rfl rfl fun batch => (offers _ batch).trans (offers _ batch).symm

end Command

end CommandShell
