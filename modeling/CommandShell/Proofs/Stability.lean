/-
This file shows that completion settles: a word that has been accepted is suggested again. The word
changes no part of the route in front of it, since each of these parts ends at a blank and the word
holds none.
-/

import CommandShell.Proofs.Discovery

namespace CommandShell

open Argument Text

namespace Node

variable {ω : Type} {sender : Sender} {node : Node ω} {cursor : Cursor} {route : Route ω}
  {consumed text word rest : List Char}

/-- With another word behind the place where it ends, a line takes the same route up to there. -/
theorem Follows.exists_reworded (follows : node.Follows sender Cursor.atBlank cursor route)
    (start : cursor = ⟨consumed, text ++ rest⟩) (place : route.place = ⟨consumed ++ text, rest⟩)
    (solid : ∀ char ∈ word, isSolid char) :
    ∃ other, node.Follows sender Cursor.atBlank ⟨consumed, text ++ word⟩ other ∧
      other.place = ⟨consumed ++ text, word⟩ ∧ other.nodes = route.nodes ∧
        other.arguments = route.arguments := by
  induction follows generalizing consumed text with
  | @exhausted node _ ended | @stuck node _ _ _ =>
      subst start
      have skipped := Cursor.skipBlanks_congr place (Cursor.atBlank_of_solid solid)
      obtain ⟨ending, stops⟩ := exists_follows_word node solid skipped
      exact ⟨_, stops, rfl, rfl, rfl⟩
  | @step node child earlier later cursor after binding route more children refused taken follows
      inductionHypothesis =>
      subst start
      have reaches := follows.reaches
      have stops := follows.atBlank_place
      rw [Route.place_cons] at place
      rw [place] at reaches stops
      obtain ⟨blanks, read, behind, rfl, rfl, moved⟩ := taken.exists_part reaches stops
      obtain ⟨other, otherFollows, otherPlace, nodes, arguments⟩ :=
        inductionHypothesis rfl (by simpa using place)
      obtain ⟨skipped, otherTaken⟩ := moved word
      rw [(moved rest).1] at refused
      rw [← skipped] at otherTaken
      -- The blank that a child stops at is not in the word, so that the child stops there anyway.
      have otherRefused : ∀ sibling ∈ earlier, sibling.Refuses sender Cursor.atBlank
          (Cursor.mk consumed (blanks ++ (read ++ behind) ++ word)).skipBlanks := by
        intro sibling among siblingBinding siblingAfter takes
        rw [skipped] at takes
        obtain ⟨_, takesOn⟩ := takes.of_atBlank.before_blank takes.accepted solid rest
        exact refused sibling among _ _ takesOn
      refine ⟨_, .step otherTaken.not_atEnd children otherRefused otherTaken otherFollows, ?_, ?_, ?_⟩
      · simpa using otherPlace
      · simp [nodes]
      · simp [arguments]

end Node

namespace Command

variable {ω : Type} {command : Command ω} {sender : Sender} {line label : String}
  {behind : Cursor} {suggestion : Suggestion}

/-- A suggestion is repeated for a line if it is made again for the same part of the line, which it
now fills. -/
def Repeats (command : Command ω) (sender : Sender) (line : String) (suggestion : Suggestion) :
    Prop :=
  ∃ again ∈ (command.suggestions sender line).items, again.text = suggestion.text ∧
    again.span.start = suggestion.span.start ∧ again.span.stop = byteLength line.toList

/-- Two lines are replayed alike if they have the same label and are walked along up to the same
place, through the same nodes and with the same arguments. -/
def ReplaysAlike (command : Command ω) (sender : Sender) (line other : String) : Prop :=
  ∃ label behind otherBehind, Labelled line label behind ∧ Labelled other label otherBehind ∧
    behind.atBlank ∧ otherBehind.atBlank ∧
      (command.replay sender otherBehind).nodes = (command.replay sender behind).nodes ∧
      (command.replay sender otherBehind).arguments = (command.replay sender behind).arguments ∧
      (command.replay sender otherBehind).cursor.consumed =
        (command.replay sender behind).cursor.consumed

/-- A label is suggested again as long as no blank stands behind it. -/
theorem repeats_label (labelled : Labelled line label behind) (typing : behind.atBlank = false)
    (suggested : suggestion ∈ (command.suggestions sender line).items) :
    command.Repeats sender (suggestion.apply line) suggestion := by
  have usable : ¬ command.Rejects sender := by
    intro rejected
    rw [suggestions_of_rejects rejected] at suggested
    cases suggested
  rw [suggestions_of_typing usable labelled typing] at suggested
  have labels (line : String) := Suggester.batch_continues (Cursor.ofLine line) command.labels
  obtain ⟨known, _, _, span⟩ := ((labels line).mem_iff suggestion).mp suggested
  rw [Suggestion.apply_of_whole span]
  have solid := solid_of_isWord (isWord_of_mem_labels known)
  have whole : Labelled suggestion.text suggestion.text ⟨suggestion.text.toList, []⟩ :=
    .of_append solid (List.append_nil _).symm rfl
  have again := ((labels suggestion.text).mem_iff
    ⟨(Cursor.ofLine suggestion.text).rest, suggestion.text, none⟩).mpr
      ⟨known, .inr (List.prefix_refl _), rfl, rfl⟩
  rw [← suggestions_of_typing usable whole rfl] at again
  exact ⟨_, again, rfl, (congrArg Span.start span).symm, rfl⟩

/-- Behind a label a suggestion in a static tree comes from the values of a child of the last node,
and accepting it puts its text at the place where the route ends. -/
theorem exists_suggesting_child (static : command.root.IsStatic)
    (labelled : Labelled line label behind) (separated : behind.atBlank)
    (suggested : suggestion ∈ (command.suggestions sender line).items) :
    ∃ route child values, command.Admits sender line label behind ∧
      command.root.Follows sender Cursor.atBlank behind route ∧
      child ∈ (route.nodes.getLastD command.root).visibleChildren sender ∧
      (∀ context suggester,
        child.segment.suggestions context suggester = Provider.fixed values context suggester) ∧
      (∃ value ∈ values, value.1 = suggestion.text) ∧ suggestion.span = route.place.rest ∧
        (suggestion.apply line).toList = route.place.consumed ++ suggestion.text.toList := by
  obtain ⟨batch, offered, inside⟩ := exists_offer labelled separated suggested
  obtain @⟨_, _, route, child, admits, _, follows, among, offers⟩ := offered
  obtain ⟨rfl, rfl⟩ := labelled.unique admits.labelled
  have last : (route.nodes.getLastD command.root).IsStatic :=
    follows.last_of_inherited static fun _ _ => Node.IsStatic.of_mem_children
  have childStatic := (last.of_mem_children (List.mem_filter.mp among).1).segment
  obtain ⟨values, suggests⟩ := childStatic.exists_values
  rw [Segment.offers_iff.mp offers, suggests] at inside
  obtain ⟨listed, _, span⟩ := Provider.chosen_of_mem_fixed inside
  refine ⟨route, child, values, admits, follows, among, suggests, listed, span, ?_⟩
  rw [Suggestion.apply_eq, String.toList_ofList, ← labelled.line_eq, ← follows.reaches.line_eq]
  exact Suggestion.applyTo_of_rest span

/-- Behind a label a line with an accepted word is replayed like the line before, and the word is
suggested again. -/
theorem repeats_word (static : command.root.IsStatic) (labelled : Labelled line label behind)
    (separated : behind.atBlank)
    (suggested : suggestion ∈ (command.suggestions sender line).items)
    (solid : ∀ char ∈ suggestion.text.toList, isSolid char) :
    command.Repeats sender (suggestion.apply line) suggestion ∧
      command.ReplaysAlike sender line (suggestion.apply line) := by
  obtain ⟨route, child, values, admits, follows, among, suggests, listed, span, applied⟩ :=
    exists_suggesting_child static labelled separated suggested
  obtain ⟨text, start, arrives, newSeparated, newAdmits⟩ :=
    admits.of_start separated follows.reaches follows.atBlank_place applied
  obtain ⟨other, otherFollows, place, nodes, arguments⟩ :=
    follows.exists_reworded start arrives solid
  have whole : other.place.line = (suggestion.apply line).toList :=
    otherFollows.reaches.line_eq.trans newAdmits.labelled.line_eq
  -- The child suggests the word once more, as the word continues itself.
  have continues : Text.Continues other.place.remaining suggestion.text.toList := by
    rw [place]
    exact .inr (List.prefix_refl _)
  let context : Context :=
    ⟨sender, suggestion.apply line, label, other.arguments, command.heading⟩
  obtain ⟨own, ownSuggested, ownText⟩ : ∃ own ∈
      (Provider.fixed values context (Suggester.behind other.place)).items,
        own.text = suggestion.text := Provider.exists_mem_fixed listed continues
  rw [← suggests] at ownSuggested
  rw [← nodes] at among
  obtain ⟨again, againSuggested, againText, againSpan⟩ :=
    exists_suggestion_of_child newAdmits newSeparated otherFollows among ownSuggested
  refine ⟨⟨again, againSuggested, againText.trans ownText, ?_, ?_⟩,
    label, behind, _, labelled, newAdmits.labelled, separated, newSeparated, ?_⟩
  · rw [againSpan static, place, span, arrives]
    rfl
  · rw [againSpan static]
    exact congrArg byteLength whole
  · rw [command.replay_of_follows otherFollows, command.replay_of_follows follows, nodes, arguments,
      place, arrives]
    exact ⟨rfl, rfl, rfl⟩

/-- Completion settles: an accepted suggestion without blanks is suggested again for the part of the
line that it fills, and behind a label the replay of the line does not change. -/
theorem suggestions_settle (static : command.root.IsStatic)
    (suggested : suggestion ∈ (command.suggestions sender line).items)
    (solid : ∀ char ∈ suggestion.text.toList, isSolid char) :
    command.Repeats sender (suggestion.apply line) suggestion ∧
      ((Cursor.ofLine line).skipWord.atBlank →
        command.ReplaysAlike sender line (suggestion.apply line)) := by
  have labelled := Labelled.ofLine line
  cases separated : (Cursor.ofLine line).skipWord.atBlank with
  | false =>
      refine ⟨repeats_label labelled separated suggested, fun goesOn => ?_⟩
      cases goesOn
  | true =>
      obtain ⟨repeats, alike⟩ := repeats_word static labelled separated suggested solid
      exact ⟨repeats, fun _ => alike⟩

/-- A text in quotes can also be typed as two words here. -/
def remarking : Command Arguments where
  toDraft := .ofName "say" [
    (Node.argument "text" .phrase).executing Context.arguments,
    (Node.argument "first" .word).followedBy [
      (Node.argument "second" .word).suggesting
        (Provider.fixed [("Words\"", some "ends the text")])]]
  sound := by decide

/-- The accepted word ends the quotation of the first child and has another case than the typed text,
but the line is still completed as before. -/
theorem suggestions_settle_closing :
    let sender : Sender := ⟨"console", [], false⟩
    let closing : Suggestion := ⟨⟨9, 10, by decide⟩, "Words\"", some "ends the text"⟩
    remarking.root.IsStatic ∧
      closing ∈ (remarking.suggestions sender "say \"two w").items ∧
      (∀ char ∈ closing.text.toList, isSolid char) ∧
      closing.apply "say \"two w" = "say \"two Words\"" ∧
      remarking.Repeats sender (closing.apply "say \"two w") closing ∧
      remarking.ReplaysAlike sender "say \"two w" (closing.apply "say \"two w") := by
  intro sender closing
  have static : remarking.root.IsStatic := by
    refine .node (fun _ provided => nomatch provided) fun child member => ?_
    rcases List.mem_cons.mp member with rfl | other
    · exact .node (fun _ provided => nomatch provided) (fun _ below => nomatch below)
    obtain rfl := List.mem_singleton.mp other
    refine .node (fun _ provided => nomatch provided) fun child member => ?_
    obtain rfl := List.mem_singleton.mp member
    exact .node (fun _ provided => ⟨_, (Option.some.inj provided).symm⟩)
      (fun _ below => nomatch below)
  have suggested : closing ∈ (remarking.suggestions sender "say \"two w").items := by
    decide +kernel
  have solid : ∀ char ∈ closing.text.toList, isSolid char :=
    List.all_eq_true.mp (by decide)
  obtain ⟨repeats, alike⟩ := suggestions_settle static suggested solid
  exact ⟨static, suggested, solid, by decide, repeats, alike (by decide)⟩

end Command

end CommandShell
