/-
This file compares the route of a line that is completed with the one on which it is executed. They
part only where an argument with blanks takes all of the line: the line is executed there, while the
completion, which does not end a part at the end of the line, turns to a later sibling.
-/

import CommandShell.Proofs.Walk

namespace CommandShell

open Argument Text

/-! ### Arguments with blanks -/

namespace Cursor

theorem solid_of_atEnd_skipWord {cursor : Cursor} (ended : cursor.skipWord.atEnd) :
    ∀ char ∈ cursor.remaining, isSolid char := by
  rw [atEnd_iff, skipWord_eq] at ended
  have nothing : cursor.remaining.dropWhile isSolid = [] := ended
  intro char member
  rw [← List.takeWhile_append_dropWhile (p := isSolid) (l := cursor.remaining), nothing,
    List.append_nil] at member
  exact solid_of_mem_word member

/-- A phrase that takes all of a line with blanks holds a blank. -/
theorem exists_blank_of_readPhrase {cursor after : Cursor} {value : String}
    (read : cursor.readPhrase = (.ok value, after)) (ended : after.atEnd) {blank : Char}
    (member : blank ∈ cursor.remaining) (separates : isBlank blank) :
    blank ∈ value.toList := by
  unfold readPhrase at read
  split at read
  · rename_i opened
    obtain ⟨consumed, remaining⟩ := cursor
    cases remaining with
    | nil => cases opened
    | cons quote rest =>
        have opened : isQuote quote := opened
        obtain ⟨form, tail, written, split, left⟩ := exists_written opened read
        rw [left, atEnd_iff] at ended
        have ended : tail = [] := ended
        subst ended split
        have notQuote : blank ≠ quote := by
          rintro rfl
          exact absurd (opened.symm.trans (notQuote_of_isBlank separates)) (by decide)
        have notBackslash : blank ≠ '\\' := by
          rintro rfl
          exact absurd separates (by decide)
        have inside : blank ∈ form := by simpa [notQuote] using member
        exact written.mem_text inside notQuote notBackslash
  · cases read
    exact absurd (solid_of_atEnd_skipWord ended blank member) (not_isSolid_of_isBlank separates)

end Cursor

/-- An argument that may hold blanks holds one. -/
def Segment.HoldsBlank (segment : Segment) (binding : Option (String × Value)) : Prop :=
  ∃ name kind provider value, segment = .argument name kind provider ∧
    (kind = .phrase ∨ kind = .remainder) ∧ binding = some (name, .text value) ∧
      ∃ char ∈ value.toList, isBlank char

/-- Only a phrase in quotes and the remainder of a line reach over blanks. -/
theorem Segment.Reads.holdsBlank {cursor after : Cursor} {segment : Segment}
    {binding : Option (String × Value)} (reads : segment.Reads cursor binding after)
    (ended : after.atEnd) {blank : Char} (member : blank ∈ cursor.remaining)
    (separates : isBlank blank) : segment.HoldsBlank binding := by
  have notWord : ¬ cursor.skipWord.atEnd := by
    intro ended
    exact not_isSolid_of_isBlank separates
      (Cursor.solid_of_atEnd_skipWord ended blank member)
  cases reads with
  | literal => exact absurd ended notWord
  | @argument name kind provider value after decoded =>
      rw [Kind.decode_eq_ok_iff] at decoded
      by_cases phrase : kind = .phrase
      · subst phrase
        unfold Kind.read at decoded
        dsimp only at decoded
        split at decoded
        · rename_i read
          cases decoded
          have inside := Cursor.exists_blank_of_readPhrase read ended member separates
          exact ⟨name, .phrase, provider, _, rfl, .inl rfl, rfl, blank, inside, separates⟩
        · cases decoded
      by_cases remainder : kind = .remainder
      · subst remainder
        cases decoded
        have inside : blank ∈ (String.ofList cursor.remaining).toList := by
          rwa [String.toList_ofList]
        exact ⟨name, .remainder, provider, _, rfl, .inr rfl, rfl, blank, inside, separates⟩
      · rw [Kind.read_eq_readWord phrase remainder] at decoded
        unfold Kind.readWord at decoded
        split at decoded
        · cases decoded
          exact absurd ended notWord
        · cases decoded

/-! ### Where two routes part -/

namespace Route

variable {ω : Type}

/-- Two routes part if one ends with an argument where the other turns to a later child. -/
def Parts (sender : Sender) (node : Node ω) (replayed descended : Route ω) : Prop :=
  ∃ shared last turn below, descended.steps = shared ++ [last] ∧
    replayed.steps = shared ++ turn :: below ∧
    [last.node, turn.node].Sublist
      (((shared.map Step.node).getLastD node).visibleChildren sender) ∧
    last.node ≠ turn.node ∧ last.node.segment.HoldsBlank last.binding ∧
    descended.ending = .exhausted

theorem Parts.cons {sender : Sender} {node : Node ω} {step : Step ω} {replayed descended : Route ω}
    (parts : Parts sender step.node replayed descended) :
    Parts sender node (replayed.cons step) (descended.cons step) := by
  obtain ⟨shared, last, turn, below, descends, replays, siblings, ends⟩ := parts
  have descends := congrArg (step :: ·) descends
  have replays := congrArg (step :: ·) replays
  refine ⟨step :: shared, last, turn, below, descends, replays, ?_, ends⟩
  rwa [List.map_cons, List.getLastD_cons]

end Route

namespace Node

variable {ω : Type} {sender : Sender} {node : Node ω} {cursor : Cursor}
  {replayed descended : Route ω}

theorem siblings_of_mem {child other : Node ω} {earlier later : List (Node ω)}
    (children : node.children = earlier ++ child :: later) (visible : child.visibleTo sender)
    (member : other ∈ earlier) (otherVisible : other.visibleTo sender) :
    [other, child].Sublist (node.visibleChildren sender) := by
  have before : [other].Sublist (earlier.filter (visibleTo sender)) :=
    List.singleton_sublist.mpr (List.mem_filter.mpr ⟨member, otherVisible⟩)
  have behind : [child].Sublist ((child :: later).filter (visibleTo sender)) :=
    List.singleton_sublist.mpr (List.mem_filter.mpr ⟨List.mem_cons_self, visible⟩)
  rw [visibleChildren, children, List.filter_append]
  exact before.append behind

/-- A line that is used up is followed no further. -/
theorem Follows.eq_of_atEnd {acceptable : Cursor → Bool}
    (follows : node.Follows sender acceptable cursor descended) (ended : cursor.atEnd) :
    descended.steps = [] ∧ descended.ending = .exhausted := by
  have nothing := Cursor.atEnd_skipBlanks ended
  cases follows with
  | exhausted => exact ⟨rfl, rfl⟩
  | stuck more | step more => exact absurd nothing more

/-- A route to a blank behind each part starts the route to a boundary, or they part. -/
theorem Follows.isPrefix_or_parts (replays : node.Follows sender Cursor.atBlank cursor replayed)
    (descends : node.Follows sender Cursor.atBoundary cursor descended) :
    replayed.steps <+: descended.steps ∨ Route.Parts sender node replayed descended := by
  induction replays generalizing descended with
  | exhausted | stuck => exact .inl List.nil_prefix
  | @step node child earlier later cursor after binding route more children refused taken rest
      inductionHypothesis =>
      have boundary := taken.of_atBlank
      cases descends with
      | exhausted ended => exact absurd ended more
      | stuck _ refusedAll =>
          exact absurd boundary (refusedAll _ (mem_of_split children) _ _)
      | @step _ other before behind _ left value below _ split refusedBefore takes follows =>
          rcases append_cons_cases (children.symm.trans split) with found | found | ⟨rfl, rfl, rfl⟩
          -- An earlier child that is executed but not replayed has taken all of the line.
          · have ended : left.atEnd := by
              rcases left.atBoundary_iff.mp takes.accepted with ended | goesOn
              · exact ended
              · exact absurd ⟨takes.visible, takes.reads, goesOn⟩ (refused other found _ _)
            obtain ⟨blank, inside, separates⟩ := taken.exists_blank
            obtain ⟨nil, exhausted⟩ := follows.eq_of_atEnd ended
            have siblings := siblings_of_mem children taken.visible found takes.visible
            have differs : other ≠ child := by
              rintro rfl
              exact absurd taken (refused other found _ _)
            have holdsBlank := takes.reads.holdsBlank ended inside separates
            exact .inr ⟨[], _, _, _, congrArg (_ :: ·) nil, rfl, siblings, differs, holdsBlank,
              exhausted⟩
          · exact absurd boundary (refusedBefore _ found _ _)
          · obtain ⟨rfl, rfl⟩ := boundary.unique takes
            rcases inductionHypothesis follows with isPrefix | parts
            · exact .inl (List.cons_prefix_cons.mpr ⟨rfl, isPrefix⟩)
            · exact .inr parts.cons

end Node

/-! ### Where two walks part -/

section Walks

variable {ω : Type}

/-- One walk starts another if it enters the same nodes and finds the same values, up to its end. -/
def Walk.Starts (replayed : Walk ω) (descent : Descent ω) : Prop :=
  replayed.nodes <+: descent.nodes ∧ replayed.arguments <+: descent.arguments

/-- The replay of a line makes a detour if the line is executed at an argument with blanks that
takes all that remains, while the replay turns from the parent of the argument to a later child. -/
inductive Detour (sender : Sender) (replayed : Walk ω) (descent : Descent ω) : Prop where
  | mk {shared below : List (Node ω)} {parent last turn : Node ω} {bound further : Arguments}
      {binding : String × Value}
      (descends : descent.nodes = shared ++ [parent, last])
      (replays : replayed.nodes = shared ++ parent :: turn :: below)
      (siblings : [last, turn].Sublist (parent.visibleChildren sender))
      (differs : last ≠ turn)
      (holdsBlank : last.segment.HoldsBlank binding)
      (binds : descent.arguments = bound ++ [binding])
      (collects : replayed.arguments = bound ++ further)
      (exhausted : descent.ending = .exhausted)

theorem Detour.not_starts {sender : Sender} {replayed : Walk ω} {descent : Descent ω}
    (detour : Detour sender replayed descent) : ¬ replayed.Starts descent := by
  rintro ⟨isPrefix, _⟩
  obtain ⟨descends, replays, _, differs⟩ := detour
  rw [descends, replays, List.prefix_append_right_inj, List.cons_prefix_cons,
    List.cons_prefix_cons] at isPrefix
  exact differs isPrefix.2.1.symm

theorem exists_append_getLastD {α : Type} (first : α) (rest : List α) :
    ∃ front, first :: rest = front ++ [rest.getLastD first] := by
  induction rest generalizing first with
  | nil => exact ⟨[], rfl⟩
  | cons second rest inductionHypothesis =>
      obtain ⟨front, same⟩ := inductionHypothesis second
      rw [List.getLastD_cons]
      exact ⟨first :: front, congrArg (first :: ·) same⟩

/-- Where the routes part, the walks make a detour. -/
theorem Route.Parts.detour {sender : Sender} {root : Node ω} {replayed descended : Route ω}
    {replay : Walk ω} {descent : Descent ω} (parts : Route.Parts sender root replayed descended)
    (replayNodes : replay.nodes = root :: replayed.nodes)
    (replayArguments : replay.arguments = replayed.arguments)
    (nodes : descent.nodes = root :: descended.nodes)
    (arguments : descent.arguments = descended.arguments)
    (ending : descent.ending = descended.ending) : Detour sender replay descent := by
  obtain ⟨shared, last, turn, below, descends, replays, siblings, differs, holdsBlank,
    exhausted⟩ := parts
  obtain ⟨front, front_eq⟩ := exists_append_getLastD root (shared.map Step.node)
  have binding_eq : ∃ binding, last.binding = some binding := by
    obtain ⟨_, _, _, _, _, _, bound, _⟩ := holdsBlank
    exact ⟨_, bound⟩
  obtain ⟨binding, binding_eq⟩ := binding_eq
  have descendsNodes : descent.nodes =
      front ++ [(shared.map Step.node).getLastD root, last.node] := by
    rw [nodes, Route.nodes, descends, List.map_append, ← List.cons_append, front_eq]
    simp
  have replaysNodes : replay.nodes =
      front ++ (shared.map Step.node).getLastD root :: turn.node :: below.map Step.node := by
    rw [replayNodes, Route.nodes, replays, List.map_append, ← List.cons_append, front_eq]
    simp
  have binds : descent.arguments = shared.filterMap Step.binding ++ [binding] := by
    rw [arguments, Route.arguments, descends, List.filterMap_append]
    simp [binding_eq]
  have collects : replay.arguments =
      shared.filterMap Step.binding ++ (turn :: below).filterMap Step.binding := by
    rw [replayArguments, Route.arguments, replays, List.filterMap_append]
  rw [binding_eq] at holdsBlank
  exact .mk descendsNodes replaysNodes siblings differs holdsBlank binds collects
    (ending.trans exhausted)

variable (command : Command ω) (sender : Sender)

/-- The replay of a line starts its descent, unless it makes a detour. -/
theorem Command.replay_starts_descend_iff (line : String) :
    let replayed := command.replay sender (Cursor.ofLine line).skipWord
    let descent := command.descend sender (Cursor.ofLine line).skipWord
    replayed.Starts descent ↔ ¬ Detour sender replayed descent := by
  intro replayed descent
  refine ⟨fun starts detour => detour.not_starts starts, fun straight => ?_⟩
  obtain ⟨replayRoute, replays⟩ := Node.exists_follows sender Cursor.atBlank command.root
    (Cursor.ofLine line).skipWord
  obtain ⟨route, descends⟩ := Node.exists_follows sender Cursor.atBoundary command.root
    (Cursor.ofLine line).skipWord
  have replayed_eq : replayed = _ := command.replay_of_follows replays
  have descent_eq : descent = _ := command.descend_of_follows descends
  rw [replayed_eq, descent_eq] at straight ⊢
  rcases replays.isPrefix_or_parts descends with isPrefix | parts
  · exact ⟨List.cons_prefix_cons.mpr ⟨rfl, isPrefix.map Step.node⟩,
      isPrefix.filterMap Step.binding⟩
  · exact absurd (parts.detour rfl rfl rfl rfl rfl) straight

/-- A message may start like the line that sends it to someone. -/
def messenger : Command Arguments where
  toDraft := .ofName "say" [
    (Node.argument "message" .remainder).executing Context.arguments,
    (Node.literal "to").followedBy [
      (Node.argument "name" .word).suggesting (Provider.fixed [("bob", none)])]]
  sound := by decide

/-- The line is executed as a message, and its replay goes on to a name. -/
theorem not_replay_starts_descend :
    let sender : Sender := ⟨"console", [], false⟩
    let behindLabel := (Cursor.ofLine "say to b").skipWord
    messenger.usableBy sender ∧ messenger.hasLabel "say" ∧ behindLabel.atBlank ∧
      ¬ (messenger.replay sender behindLabel).Starts (messenger.descend sender behindLabel) := by
  refine ⟨by decide, by decide, by decide, ?_⟩
  rintro ⟨isPrefix, _⟩
  have names := isPrefix.map fun node => node.segment.name
  exact absurd names (by decide)

end Walks

end CommandShell
