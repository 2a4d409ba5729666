/-
This file shows that a line with an accepted suggestion can be executed, as far as it goes. The word
that is put at the place of completion changes the route only where an earlier part takes all of the
line, so that nothing of it is left over.
-/

import CommandShell.Proofs.Completion
import CommandShell.Proofs.Registry
import CommandShell.Proofs.Suggestion

namespace CommandShell

open Argument Text

namespace Node

variable {ω : Type} {sender : Sender} {node child : Node ω} {binding : Option (String × Value)}
  {cursor after : Cursor} {consumed text word rest : List Char} {route : Route ω}

/-- A child that goes on behind a blank takes the same text before another end of the line. -/
theorem Takes.before_blank
    (taken : child.Takes sender Cursor.atBoundary ⟨consumed, text ++ word⟩ binding after)
    (goesOn : after.atBlank) (solid : ∀ char ∈ word, isSolid char) (rest : List Char) :
    ∃ other, child.Takes sender Cursor.atBlank ⟨consumed, text ++ rest⟩ binding other := by
  obtain ⟨read, start, left⟩ := taken.reads.reaches.exists_text
  obtain ⟨blank, behind, stops, separates⟩ := after.atBlank_iff.mp goesOn
  rw [stops] at start left
  have split : text ++ word = read ++ blank :: behind := congrArg Cursor.remaining start
  rcases List.append_eq_append_iff.mp split with ⟨middle, _, within⟩ | ⟨middle, within, same⟩
  · exact absurd (solid blank (mem_of_split within)) (not_isSolid_of_isBlank separates)
  · cases middle with
    | nil =>
        have same : word = [] ++ blank :: behind := same.symm
        exact absurd (solid blank (mem_of_split same)) (not_isSolid_of_isBlank separates)
    | cons first middle =>
        obtain ⟨rfl, _⟩ := List.cons.inj same
        have reads := taken.reads
        rw [split, left] at reads
        have moved := reads.congr separates (middle ++ rest)
        refine ⟨⟨consumed ++ read, blank :: (middle ++ rest)⟩, taken.visible, ?_, separates⟩
        rw [within, List.append_assoc]
        exact moved

/-- There is no blank in a word at which a child could end. -/
theorem Takes.atEnd_of_word
    (taken : child.Takes sender Cursor.atBoundary ⟨consumed, word⟩ binding after)
    (solid : ∀ char ∈ word, isSolid char) : after.atEnd := by
  rcases after.atBoundary_iff.mp taken.accepted with ended | goesOn
  · exact ended
  obtain ⟨read, start, _⟩ := taken.reads.reaches.exists_text
  obtain ⟨blank, behind, stops, separates⟩ := after.atBlank_iff.mp goesOn
  have split : word = read ++ after.remaining := congrArg Cursor.remaining start
  rw [stops] at split
  exact absurd (solid blank (mem_of_split split)) (not_isSolid_of_isBlank separates)

/-- A line is used up from a node if its route leaves nothing of it over. -/
def UsesUp (sender : Sender) (node : Node ω) (cursor : Cursor) : Prop :=
  ∃ route, node.Follows sender Cursor.atBoundary cursor route ∧ route.ending = .exhausted

/-- A child that takes all of a line uses it up. -/
theorem Takes.usesUp {earlier later : List (Node ω)} (more : ¬ cursor.skipBlanks.atEnd)
    (children : node.children = earlier ++ child :: later)
    (refused : ∀ other ∈ earlier, other.Refuses sender Cursor.atBoundary cursor.skipBlanks)
    (taken : child.Takes sender Cursor.atBoundary cursor.skipBlanks binding after)
    (ended : after.atEnd) : node.UsesUp sender cursor := by
  have nothing := Cursor.atEnd_skipBlanks ended
  exact ⟨_, .step more children refused taken (.exhausted nothing), rfl⟩

/-- At a node with a child that reads a word to the end of the line, the word uses the line up. -/
theorem usesUp_of_word (member : child ∈ node.visibleChildren sender)
    (completes : child.segment.Completes word)
    (skipped : cursor.skipBlanks = ⟨consumed, word⟩) : node.UsesUp sender cursor := by
  have more : ¬ cursor.skipBlanks.atEnd := by
    rw [skipped, Cursor.atEnd_iff]
    exact ne_nil_of_isWord completes.isWord
  obtain ⟨among, visible⟩ := List.mem_filter.mp member
  obtain ⟨binding, reads⟩ := completes.reads consumed
  have takes : child.Takes sender Cursor.atBoundary cursor.skipBlanks binding
      ⟨consumed ++ word, []⟩ := by
    rw [skipped]
    exact ⟨visible, reads, rfl⟩
  rcases refuses_or_takes sender Cursor.atBoundary cursor.skipBlanks node.children with
    refused | ⟨earlier, first, later, children, refused, other, after, taken⟩
  · exact absurd takes (refused child among _ _)
  · have ended := taken
    rw [skipped] at ended
    exact taken.usesUp more children refused
      (ended.atEnd_of_word (solid_of_isWord completes.isWord))

/-- A child keeps its part of a line when the end of the line changes, or an earlier child that did
not go on behind a blank takes all of the line. -/
theorem usesUp_of_step {earlier later : List (Node ω)}
    (children : node.children = earlier ++ child :: later)
    (refused : ∀ other ∈ earlier, other.Refuses sender Cursor.atBlank ⟨consumed, text ++ rest⟩)
    (solid : ∀ char ∈ word, isSolid char)
    (skipped : cursor.skipBlanks = ⟨consumed, text ++ word⟩)
    (taken : child.Takes sender Cursor.atBlank ⟨consumed, text ++ word⟩ binding after)
    (below : child.UsesUp sender after) : node.UsesUp sender cursor := by
  have more : ¬ cursor.skipBlanks.atEnd := by
    rw [skipped]
    exact taken.not_atEnd
  rcases refuses_or_takes sender Cursor.atBoundary cursor.skipBlanks node.children with
    refusedAll | ⟨before, first, behind, split, refusedBefore, other, left, takes⟩
  · rw [skipped] at refusedAll
    exact absurd taken.of_atBlank (refusedAll child (mem_of_split children) _ _)
  rcases append_cons_cases (children.symm.trans split) with found | found | ⟨rfl, rfl, rfl⟩
  -- An earlier child that goes on behind a blank would have done so before the old end, too.
  · rcases left.atBoundary_iff.mp takes.accepted with ended | goesOn
    · exact takes.usesUp more split refusedBefore ended
    · rw [skipped] at takes
      obtain ⟨_, earlierTakes⟩ := takes.before_blank goesOn solid rest
      exact absurd earlierTakes (refused first found _ _)
  · have refuses := refusedBefore child found
    rw [skipped] at refuses
    exact absurd taken.of_atBlank (refuses _ _)
  · obtain ⟨route, follows, exhausted⟩ := below
    have same := takes
    rw [skipped] at same
    obtain ⟨rfl, rfl⟩ := taken.of_atBlank.unique same
    exact ⟨_, .step more split refusedBefore takes follows, exhausted⟩

/-- A part that a route goes on from is read in the same way before any other end of the line. -/
theorem Takes.exists_part
    (taken : child.Takes sender Cursor.atBlank (Cursor.mk consumed (text ++ rest)).skipBlanks
      binding after)
    (reaches : after.Reaches ⟨consumed ++ text, rest⟩)
    (stops : (Cursor.mk (consumed ++ text) rest).atBlank = false) :
    ∃ blanks read behind, text = blanks ++ (read ++ behind) ∧
      after = ⟨consumed ++ blanks ++ read, behind ++ rest⟩ ∧
      ∀ other, (Cursor.mk consumed (text ++ other)).skipBlanks =
          ⟨consumed ++ blanks, (read ++ behind) ++ other⟩ ∧
        child.Takes sender Cursor.atBlank ⟨consumed ++ blanks, (read ++ behind) ++ other⟩ binding
          ⟨consumed ++ blanks ++ read, behind ++ other⟩ := by
  obtain ⟨blanks, _, _, skipped⟩ := (Cursor.mk consumed (text ++ rest)).exists_blanks
  obtain ⟨read, start, left⟩ := taken.reads.reaches.exists_text
  obtain ⟨blank, behind, separates, leaves, arrives⟩ := reaches.exists_blank taken.accepted stops
  have consumed_eq : (Cursor.mk consumed (text ++ rest)).skipBlanks.consumed =
      consumed ++ blanks := congrArg Cursor.consumed skipped
  have remaining_eq : after.remaining = blank :: (behind ++ rest) :=
    congrArg Cursor.remaining leaves
  rw [consumed_eq, remaining_eq] at start left
  have text_eq : text = blanks ++ (read ++ blank :: behind) := by
    have all := congrArg Cursor.consumed arrives
    rw [left] at all
    simp only [List.append_assoc] at all
    exact List.append_cancel_left all
  subst text_eq left
  have reads := taken.reads
  have readStops :=
    Cursor.atBlank_skipBlanks ⟨consumed, blanks ++ (read ++ blank :: behind) ++ rest⟩
  rw [start] at reads readStops
  refine ⟨blanks, read, blank :: behind, rfl, rfl, ?_⟩
  intro other
  refine ⟨?_, taken.visible, ?_, separates⟩
  · have otherStops : (Cursor.mk (consumed ++ blanks)
        (read ++ blank :: (behind ++ other))).atBlank = false := by
      cases read with
      | nil => exact absurd (separates.symm.trans readStops) (by decide)
      | cons char read => exact readStops
    rw [List.append_assoc, List.append_assoc] at start
    have same := Cursor.skipBlanks_congr start otherStops
    simpa using same
  · simpa using reads.congr separates (behind ++ other)

/-- A child of the last node that reads a word to the end uses the line up, or it has been used up
before. -/
theorem Follows.usesUp (follows : node.Follows sender Cursor.atBlank cursor route)
    (member : child ∈ (route.nodes.getLastD node).visibleChildren sender)
    (completes : child.segment.Completes word) (start : cursor = ⟨consumed, text ++ rest⟩)
    (place : route.place = ⟨consumed ++ text, rest⟩) :
    node.UsesUp sender ⟨consumed, text ++ word⟩ := by
  have solid := solid_of_isWord completes.isWord
  induction follows generalizing consumed text with
  | exhausted | stuck =>
      subst start
      exact usesUp_of_word member completes
        (Cursor.skipBlanks_congr place (completes.atBlank consumed))
  | @step node next earlier later cursor after binding route more children refused taken follows
      inductionHypothesis =>
      subst start
      have reaches := follows.reaches
      have stops := follows.atBlank_place
      rw [Route.place_cons] at place
      rw [place] at reaches stops
      obtain ⟨blanks, read, behind, rfl, rfl, moved⟩ := taken.exists_part reaches stops
      rw [(moved rest).1] at refused
      rw [Route.nodes_cons, List.getLastD_cons] at member
      have below : next.UsesUp sender ⟨consumed ++ blanks ++ read, behind ++ word⟩ :=
        inductionHypothesis member rfl (by simpa using place)
      exact usesUp_of_step children refused solid (moved word).1 (moved word).2 below

mutual

/-- No argument of an intrinsic tree has a provider of its own. -/
def isIntrinsic : Node ω → Bool
  | .node segment _ _ children => segment.provider?.isNone && areIntrinsic children

def areIntrinsic : List (Node ω) → Bool
  | [] => true
  | child :: rest => child.isIntrinsic && areIntrinsic rest

end

theorem provider?_of_isIntrinsic (intrinsic : node.isIntrinsic) :
    node.segment.provider? = none := by
  obtain ⟨segment, executor, requirement, children⟩ := node
  rw [isIntrinsic, Bool.and_eq_true] at intrinsic
  exact Option.isNone_iff_eq_none.mp intrinsic.1

theorem isIntrinsic_of_mem_among {children : List (Node ω)} (intrinsic : areIntrinsic children)
    (member : child ∈ children) : child.isIntrinsic := by
  induction children with
  | nil => cases member
  | cons first rest inductionHypothesis =>
      rw [areIntrinsic, Bool.and_eq_true] at intrinsic
      rcases List.mem_cons.mp member with rfl | later
      · exact intrinsic.1
      · exact inductionHypothesis intrinsic.2 later

theorem child_isIntrinsic (intrinsic : node.isIntrinsic) (member : child ∈ node.children) :
    child.isIntrinsic := by
  obtain ⟨segment, executor, requirement, children⟩ := node
  rw [isIntrinsic, Bool.and_eq_true] at intrinsic
  exact isIntrinsic_of_mem_among intrinsic.2 member

/-- A part of a sound tree is sound, whatever names are bound before it. -/
def Sound (node : Node ω) : Prop :=
  ∃ bound, node.violation? bound = none

theorem Sound.of_mem_children (sound : node.Sound) (member : child ∈ node.children) :
    child.Sound := by
  obtain ⟨bound, sound⟩ := sound
  exact ⟨_, child_sound sound member⟩

end Node

namespace Command

variable {ω : Type} {command : Command ω} {sender : Sender} {line : String}
  {suggestion : Suggestion}

/-- A line is accepted if its route uses all of it up. -/
def Accepts (command : Command ω) (sender : Sender) (line label : String) : Prop :=
  ∃ behind, command.Admits sender line label behind ∧ command.root.UsesUp sender behind

theorem Accepts.resolve {label : String} (accepts : command.Accepts sender line label) :
    (∃ call, command.resolve sender line = .ok call) ∨
      command.resolve sender line =
        .error (.incompleteCommand command.name (command.usage sender)) := by
  obtain ⟨behind, admits, finished, follows, exhausted⟩ := accepts
  rw [resolve_of_admits admits follows, exhausted]
  cases finished.executor?.or command.root.executor with
  | none => exact .inr rfl
  | some executor => exact .inl ⟨_, rfl⟩

/-- A suggestion puts a word at the place of completion that a child of the last node reads. -/
theorem exists_completing_child {label : String} {behind : Cursor}
    (intrinsic : command.root.isIntrinsic) (labelled : Labelled line label behind)
    (separated : behind.atBlank)
    (suggested : suggestion ∈ (command.suggestions sender line).items) :
    ∃ route child, command.Admits sender line label behind ∧
      command.root.Follows sender Cursor.atBlank behind route ∧
      child ∈ (route.nodes.getLastD command.root).visibleChildren sender ∧
      child.segment.Completes suggestion.text.toList ∧
        (suggestion.apply line).toList = route.place.consumed ++ suggestion.text.toList := by
  obtain ⟨batch, offered, inside⟩ := exists_offer labelled separated suggested
  obtain @⟨_, _, route, child, admits, _, follows, among, offers⟩ := offered
  obtain ⟨rfl, rfl⟩ := labelled.unique admits.labelled
  have last : (route.nodes.getLastD command.root).Sound :=
    follows.last_of_inherited ⟨[], command.root_sound⟩ fun _ _ => Node.Sound.of_mem_children
  have lastIntrinsic : (route.nodes.getLastD command.root).isIntrinsic :=
    follows.last_of_inherited intrinsic fun _ _ => Node.child_isIntrinsic
  have isChild := (List.mem_filter.mp among).1
  obtain ⟨bound, childSound⟩ := last.of_mem_children isChild
  obtain ⟨span, completes⟩ := Segment.completes_of_offers (Node.segment_sound childSound)
    (Node.provider?_of_isIntrinsic (Node.child_isIntrinsic lastIntrinsic isChild)) offers inside
  refine ⟨route, child, admits, follows, among, completes, ?_⟩
  rw [Suggestion.apply_eq, String.toList_ofList, ← labelled.line_eq, ← follows.reaches.line_eq]
  exact Suggestion.applyTo_of_rest span

/-- An accepted suggestion of a command gives a line that the command accepts. -/
theorem accepts_suggestion {label : String} {behind : Cursor} (intrinsic : command.root.isIntrinsic)
    (labelled : Labelled line label behind) (separated : behind.atBlank)
    (suggested : suggestion ∈ (command.suggestions sender line).items) :
    command.Accepts sender (suggestion.apply line) label := by
  obtain ⟨route, child, admits, follows, among, completes, applied⟩ :=
    exists_completing_child intrinsic labelled separated suggested
  -- A blank stays behind the label, so that the new line has the same label.
  obtain ⟨text, start, arrives, _, admitsApplied⟩ :=
    admits.of_start separated follows.reaches follows.atBlank_place applied
  exact ⟨_, admitsApplied, follows.usesUp among completes start arrives⟩

/-- A label by itself is a line that its command accepts. -/
theorem accepts_label {label : String} (usable : command.usableBy sender)
    (named : label ∈ command.labels) : command.Accepts sender label label := by
  have solid := solid_of_isWord (isWord_of_mem_labels named)
  have labelled : Labelled label label ⟨label.toList, []⟩ :=
    .of_append solid (List.append_nil _).symm rfl
  exact ⟨_, ⟨labelled, named, not_rejects_iff.mpr usable⟩, _, .exhausted rfl, rfl⟩

end Command

namespace Registry

variable {ω : Type} {registry : Registry ω} {sender : Sender} {line : String}
  {suggestion : Suggestion}

/-- A line that is understood runs an executor, or it is incomplete for one of the commands. -/
def Understands (registry : Registry ω) (sender : Sender) (line : String) : Prop :=
  (∃ call, registry.resolve sender line = .ok call ∧
    registry.execute sender line = .ok call.run) ∨
  ∃ command ∈ registry.commands, registry.execute sender line =
    .error (.incompleteCommand command.name (command.usage sender))

theorem Reachable.understands_of_accepts {command : Command ω} {label : String}
    (reachable : registry.Reachable) (member : command ∈ registry.commands)
    (accepts : command.Accepts sender line label) : registry.Understands sender line := by
  have resolved := accepts.resolve
  obtain ⟨_, admits, _⟩ := accepts
  obtain ⟨label_eq, _⟩ := Labelled.iff_eq.mp admits.labelled
  have found := reachable.consistent.find?_of_mem member admits.known
  have same : registry.resolve sender line = command.resolve sender line := by
    rw [resolve, ← label_eq, found]
  unfold Understands execute
  rw [same]
  rcases resolved with ⟨call, called⟩ | incomplete
  · rw [called]
    exact .inl ⟨call, rfl, rfl⟩
  · rw [incomplete]
    exact .inr ⟨command, member, rfl⟩

/-- While a label is typed, the labels of usable commands are suggested for the line. -/
theorem exists_label_of_mem_suggestions (typing : (Cursor.ofLine line).skipWord.atBlank = false)
    (suggested : suggestion ∈ (registry.suggestions sender line).items) :
    ∃ command ∈ registry.commands, command.usableBy sender ∧
      suggestion.apply line ∈ command.labels := by
  simp only [suggestions, typing, Bool.not_false, ↓reduceIte] at suggested
  rw [Suggester.ofLine_zero] at suggested
  obtain ⟨member, _, _, span⟩ :=
    ((Suggester.batch_continues (Cursor.ofLine line) _).mem_iff suggestion).mp suggested
  obtain ⟨command, among, named⟩ := List.mem_flatMap.mp member
  obtain ⟨registered, usable⟩ := List.mem_filter.mp among
  refine ⟨command, registered, usable, ?_⟩
  rwa [Suggestion.apply_of_whole span]

/-- A line with an accepted suggestion is understood. -/
theorem Reachable.understands_suggestion (reachable : registry.Reachable)
    (intrinsic : ∀ command ∈ registry.commands, command.root.isIntrinsic)
    (suggested : suggestion ∈ (registry.suggestions sender line).items) :
    registry.Understands sender (suggestion.apply line) := by
  cases separated : (Cursor.ofLine line).skipWord.atBlank with
  | false =>
      obtain ⟨command, member, usable, named⟩ := exists_label_of_mem_suggestions separated suggested
      exact reachable.understands_of_accepts member (Command.accepts_label usable named)
  | true =>
      simp only [suggestions, separated, Bool.not_true, Bool.false_eq_true, ↓reduceIte] at suggested
      split at suggested
      · rename_i command found
        have member := mem_of_find?_eq_some found
        exact reachable.understands_of_accepts member
          (Command.accepts_suggestion (intrinsic command member) (.ofLine line) separated suggested)
      · cases suggested

/-- A text in quotes can also be typed as two words here. -/
def quotingCommand : Command Arguments where
  toDraft := .ofName "say" [
    (Node.argument "text" .phrase).executing Context.arguments,
    (Node.literal "\"two").followedBy [Node.literal "words\""]]
  sound := by decide

def quoting : Registry Arguments :=
  ⟨[quotingCommand], [("say", 0)]⟩

/-- The last word closes the quotes, so that the earlier child takes all of the line. -/
theorem understands_closing_word :
    quoting.Understands ⟨"console", [], true⟩
      (Suggestion.apply ⟨⟨9, 10, by decide⟩, "words\"", none⟩ "say \"two w") ∧
      (quoting.execute ⟨"console", [], true⟩ "say \"two words\"").toOption =
        some [("text", .text "two words")] := by
  have registered : empty.register quotingCommand = (.ok (), quoting) := rfl
  have reachable : quoting.Reachable := .register .empty registered
  have intrinsic : ∀ command ∈ quoting.commands, command.root.isIntrinsic := by decide
  exact ⟨reachable.understands_suggestion intrinsic (by decide +kernel), by decide +kernel⟩

end Registry

end CommandShell
