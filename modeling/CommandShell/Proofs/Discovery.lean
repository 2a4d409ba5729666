/-
This file shows that completion finds the literals that lines go through. Cutting a line inside such
a literal leaves its route as it is up to there, since what the parts before it read ends at blanks.
-/

import CommandShell.Proofs.Acceptance

namespace CommandShell

open Argument Text

/-! ### Lines that are cut -/

/-- This is what each step of a route does. -/
structure Step.Stands {ω : Type} (sender : Sender) (acceptable : Cursor → Bool) (cursor : Cursor)
    (step : Step ω) : Prop where
  reached : cursor.Reaches step.before
  more : ¬ step.before.atEnd
  solid : step.before.atBlank = false
  taken : step.node.Takes sender acceptable step.before step.binding step.after

/-- A boundary with a step behind it does not end the line. -/
theorem Step.Stands.atBlank {ω : Type} {sender : Sender} {acceptable : Cursor → Bool}
    {cursor : Cursor} {step : Step ω} (stands : step.Stands sender acceptable cursor)
    (boundary : cursor.atBoundary) : cursor.atBlank := by
  rcases cursor.atBoundary_iff.mp boundary with ended | goesOn
  · exact absurd (stands.reached.atEnd ended) stands.more
  · exact goesOn

namespace Node

variable {ω : Type} {sender : Sender} {acceptable : Cursor → Bool} {node : Node ω}
  {cursor : Cursor} {route : Route ω} {step : Step ω} {consumed text word rest : List Char}

theorem Follows.stands (follows : node.Follows sender acceptable cursor route)
    (member : step ∈ route.steps) : step.Stands sender acceptable cursor := by
  induction follows with
  | exhausted | stuck => cases member
  | @step _ _ _ _ cursor _ _ _ more _ _ taken _ inductionHypothesis =>
      rcases List.mem_cons.mp member with rfl | later
      · exact ⟨cursor.reaches_skipBlanks, more, cursor.atBlank_skipBlanks, taken⟩
      · obtain ⟨reached, stepMore, solid, stepTaken⟩ := inductionHypothesis later
        have reads := cursor.reaches_skipBlanks.trans taken.reads.reaches
        exact ⟨reads.trans reached, stepMore, solid, stepTaken⟩

/-- A word at the end of a line is not complete, so that no child takes it. -/
theorem exists_follows_word (node : Node ω) (solid : ∀ char ∈ word, isSolid char)
    (skipped : cursor.skipBlanks = ⟨consumed, word⟩) :
    ∃ ending, node.Follows sender Cursor.atBlank cursor ⟨[], ⟨consumed, word⟩, ending⟩ := by
  obtain ⟨route, follows⟩ := exists_follows sender Cursor.atBlank node cursor
  rw [← skipped]
  cases follows with
  | exhausted ended => exact ⟨_, .exhausted ended⟩
  | stuck more refused => exact ⟨_, .stuck more refused⟩
  | step _ _ _ taken _ =>
      rw [skipped] at taken
      obtain ⟨blank, member, separates⟩ := taken.exists_blank
      exact absurd (solid blank member) (not_isSolid_of_isBlank separates)

/-- A line that is cut where a step of its route starts, and goes on with a word there, ends before
the word, at the node above the step. -/
theorem Follows.exists_cut {above below : List (Step ω)}
    (follows : node.Follows sender Cursor.atBoundary cursor route)
    (steps : route.steps = above ++ step :: below) (start : cursor = ⟨consumed, text ++ rest⟩)
    (before : step.before = ⟨consumed ++ text, rest⟩) (solid : ∀ char ∈ word, isSolid char) :
    ∃ cut, node.Follows sender Cursor.atBlank ⟨consumed, text ++ word⟩ cut ∧
      cut.place = ⟨consumed ++ text, word⟩ ∧
        step.node ∈ (cut.nodes.getLastD node).visibleChildren sender := by
  induction follows generalizing above consumed text with
  | exhausted | stuck => simp at steps
  | @step node child earlier later cursor after binding route more children refused taken follows
      inductionHypothesis =>
      subst start
      cases above with
      | nil =>
          obtain ⟨rfl, rfl⟩ := List.cons.inj steps
          have skipped := Cursor.skipBlanks_congr before (Cursor.atBlank_of_solid solid)
          obtain ⟨ending, cut⟩ := exists_follows_word node solid skipped
          exact ⟨_, cut, rfl, List.mem_filter.mpr ⟨mem_of_split children, taken.visible⟩⟩
      | cons first above =>
          obtain ⟨rfl, tail⟩ := List.cons.inj steps
          have stands := follows.stands (mem_of_split tail)
          have takenOn : child.Takes sender Cursor.atBlank _ binding after :=
            ⟨taken.visible, taken.reads, stands.atBlank taken.accepted⟩
          obtain ⟨reached, _, stops, _⟩ := stands
          rw [before] at reached stops
          obtain ⟨blanks, read, behind, rfl, rfl, moved⟩ := takenOn.exists_part reached stops
          obtain ⟨cut, cutFollows, place, member⟩ :=
            inductionHypothesis tail rfl (by simpa using before)
          obtain ⟨skipped, cutTaken⟩ := moved word
          rw [(moved rest).1] at refused
          rw [← skipped] at cutTaken
          -- A child that takes the cut line before a blank takes the whole line, too.
          have refusedCut : ∀ other ∈ earlier, other.Refuses sender Cursor.atBlank
              (Cursor.mk consumed (blanks ++ (read ++ behind) ++ word)).skipBlanks := by
            intro other among otherBinding otherAfter takes
            rw [skipped] at takes
            obtain ⟨_, takesAll⟩ := takes.of_atBlank.before_blank takes.accepted solid rest
            exact refused other among _ _ takesAll.of_atBlank
          refine ⟨_, .step cutTaken.not_atEnd children refusedCut cutTaken cutFollows, ?_, ?_⟩
          · simpa using place
          · rwa [Route.nodes_cons, List.getLastD_cons]

end Node

/-! ### Trees without closures -/

/-- A static segment has no provider but a list of values. -/
def Segment.IsStatic (segment : Segment) : Prop :=
  ∀ provider, segment.provider? = some provider → ∃ values, provider = Provider.fixed values

/-- A static segment suggests the values of a list, wherever it is asked. -/
theorem Segment.IsStatic.exists_values {segment : Segment} (static : segment.IsStatic) :
    ∃ values, ∀ context suggester,
      segment.suggestions context suggester = Provider.fixed values context suggester := by
  cases segment with
  | literal text => exact ⟨[(text, none)], fun _ _ => rfl⟩
  | argument name kind provider =>
      cases provider with
      | some provider =>
          obtain ⟨values, rfl⟩ := static provider rfl
          exact ⟨values, fun _ _ => rfl⟩
      | none =>
          cases kind with
          | boolean => exact ⟨[("true", none), ("false", none)], fun _ _ => rfl⟩
          | _ => exact ⟨[], fun _ _ => rfl⟩

namespace Provider

variable {values : List (String × Option String)} {context : Context} {place : Cursor}
  {text : String} {suggestion : Suggestion}

/-- Of the values of a list those are suggested that continue the line. -/
theorem chosen_of_mem_fixed
    (member : suggestion ∈ (fixed values context (Suggester.behind place)).items) :
    (∃ value ∈ values, value.1 = suggestion.text) ∧
      Text.Continues place.remaining suggestion.text.toList ∧ suggestion.span = place.rest := by
  have accepted := (Suggestion.mem_canonical_iff.mp member).mem
  rw [Suggester.foldl_offer_eq] at accepted
  obtain ⟨value, among, rfl⟩ := List.mem_map.mp accepted
  obtain ⟨listed, continues⟩ := List.mem_filter.mp among
  exact ⟨⟨value, listed, rfl⟩, (Suggester.accepts_iff _ _).mp continues, rfl⟩

theorem exists_mem_fixed (listed : ∃ value ∈ values, value.1 = text)
    (continues : Text.Continues place.remaining text.toList) :
    ∃ suggestion ∈ (fixed values context (Suggester.behind place)).items,
      suggestion.text = text := by
  obtain ⟨value, member, rfl⟩ := listed
  have accepted : ⟨place.rest, value.1, value.2⟩ ∈
      (values.foldl (fun suggester value => suggester.offer value.1 value.2)
        (Suggester.behind place)).accepted := by
    rw [Suggester.foldl_offer_eq]
    exact List.mem_map_of_mem
      (List.mem_filter.mpr ⟨member, (Suggester.accepts_iff _ _).mpr continues⟩)
  obtain ⟨suggestion, chosen, same, _⟩ := Suggestion.exists_chosen accepted
  exact ⟨suggestion, Suggestion.mem_canonical_iff.mpr chosen, same⟩

end Provider

/-- All that a static segment offers replaces what stands behind the place. -/
theorem Segment.Offers.span_eq {segment : Segment} {context : Context} {place : Cursor}
    {batch : Batch} {suggestion : Suggestion} (offers : segment.Offers context place batch)
    (static : segment.IsStatic) (member : suggestion ∈ batch.items) :
    suggestion.span = place.rest := by
  obtain ⟨values, suggests⟩ := static.exists_values
  rw [Segment.offers_iff.mp offers, suggests] at member
  exact (Provider.chosen_of_mem_fixed member).2.2

/-- No provider in a static tree is more than a list of values. -/
inductive Node.IsStatic {ω : Type} : Node ω → Prop where
  | node {node : Node ω} (own : node.segment.IsStatic)
      (below : ∀ child ∈ node.children, child.IsStatic) : IsStatic node

theorem Node.IsStatic.segment {ω : Type} {node : Node ω} (static : node.IsStatic) :
    node.segment.IsStatic := by
  obtain ⟨own, _⟩ := static
  exact own

theorem Node.IsStatic.of_mem_children {ω : Type} {node child : Node ω} (static : node.IsStatic)
    (member : child ∈ node.children) : child.IsStatic := by
  obtain ⟨_, below⟩ := static
  exact below child member

/-! ### Starts of words -/

theorem lineBefore_offset {line : String} {place : Cursor} (line_eq : place.line = line.toList) :
    (lineBefore line place.offset).toList = place.consumed := by
  rw [lineBefore, ← line_eq, Cursor.line, Cursor.offset, cutDown_byteLength, String.toList_ofList]

namespace Command

variable {ω : Type} {command : Command ω} {sender : Sender} {line label text : String}
  {behind : Cursor} {route : Route ω} {step : Step ω}

/-- Any start of a word that is typed at an offset of a line is completed to the word. -/
def Discovers (command : Command ω) (sender : Sender) (line : String) (offset : Nat)
    (text : String) : Prop :=
  ∀ typed : String, typed.toList <+: text.toList →
    lowercase typed.toList <+: lowercase text.toList →
      ∃ suggestion ∈ (command.suggestions sender (lineBefore line offset ++ typed)).items,
        suggestion.text = text ∧
          (command.root.IsStatic → suggestion.span.start = offset ∧
            suggestion.span.stop = offset + byteLength typed.toList)

/-- What a child of the node where a route ends suggests is suggested for the line. -/
theorem exists_suggestion_of_child {child : Node ω} {own : Suggestion}
    (admits : command.Admits sender line label behind) (separated : behind.atBlank)
    (follows : command.root.Follows sender Cursor.atBlank behind route)
    (member : child ∈ (route.nodes.getLastD command.root).visibleChildren sender)
    (suggested : own ∈ (child.segment.suggestions
      ⟨sender, line, label, route.arguments, command.heading⟩
      (Suggester.behind route.place)).items) :
    ∃ suggestion ∈ (command.suggestions sender line).items, suggestion.text = own.text ∧
      (command.root.IsStatic → suggestion.span = route.place.rest) := by
  have joins := suggestions_joins admits separated follows (List.ne_nil_of_mem member)
  have offered := (mem_map_suggestions_iff admits separated follows).mpr <|
    .child admits separated follows member (child.segment.offers_suggestions _ _)
  obtain ⟨suggestion, chosen, same, _⟩ :=
    Suggestion.exists_chosen ((List.mem_flatMap (f := Batch.items)).mpr ⟨_, offered, suggested⟩)
  refine ⟨suggestion, (joins.mem_iff suggestion).mpr chosen, same, fun static => ?_⟩
  obtain ⟨batch, batches, inside⟩ := List.mem_flatMap.mp chosen.mem
  obtain ⟨other, visible, rfl⟩ := List.mem_map.mp batches
  have last : (route.nodes.getLastD command.root).IsStatic :=
    follows.last_of_inherited static fun _ _ => Node.IsStatic.of_mem_children
  have otherStatic := last.of_mem_children (List.mem_filter.mp visible).1
  exact (other.segment.offers_suggestions _ _).span_eq otherStatic.segment inside

/-- A child of the node where a route ends has its literal suggested. -/
theorem exists_suggestion_of_literal {child : Node ω}
    (admits : command.Admits sender line label behind) (separated : behind.atBlank)
    (follows : command.root.Follows sender Cursor.atBlank behind route)
    (member : child ∈ (route.nodes.getLastD command.root).visibleChildren sender)
    (literal : child.segment = .literal text)
    (continues : Text.Continues route.place.remaining text.toList) :
    ∃ suggestion ∈ (command.suggestions sender line).items, suggestion.text = text ∧
      (command.root.IsStatic → suggestion.span = route.place.rest) := by
  have own : ⟨route.place.rest, text, none⟩ ∈ (child.segment.suggestions
      ⟨sender, line, label, route.arguments, command.heading⟩
      (Suggester.behind route.place)).items := by
    rw [literal]
    exact ((Suggester.batch_continues route.place [text]).mem_iff _).mpr
      ⟨List.mem_singleton_self text, continues, rfl, rfl⟩
  exact exists_suggestion_of_child admits separated follows member own

theorem discovers_label (admits : command.Admits sender line label behind) :
    command.Discovers sender line 0 label := by
  obtain ⟨labelled, known, usable⟩ := admits
  intro typed starts continues
  have typed_eq : lineBefore line 0 ++ typed = typed := by
    have nothing : (lineBefore line 0).toList = [] :=
      @lineBefore_offset line (Cursor.ofLine line) rfl
    rw [String.toList_eq_nil_iff.mp nothing, String.empty_append]
  have solid : ∀ char ∈ typed.toList, isSolid char := fun char member =>
    labelled.solid char (starts.subset member)
  have whole : Labelled typed typed ⟨typed.toList, []⟩ :=
    .of_append solid (List.append_nil _).symm rfl
  have suggested := (Suggester.batch_continues (Cursor.ofLine typed) command.labels).mem_iff
    ⟨(Cursor.ofLine typed).rest, label, none⟩
  rw [typed_eq, suggestions_of_typing usable whole rfl]
  refine ⟨_, suggested.mpr ⟨known, .inr continues, rfl, rfl⟩, rfl, fun _ => ⟨rfl, ?_⟩⟩
  exact (Nat.zero_add _).symm

theorem discovers_literal (admits : command.Admits sender line label behind)
    (follows : command.root.Follows sender Cursor.atBoundary behind route)
    (member : step ∈ route.steps) (literal : step.node.segment = .literal text) :
    command.Discovers sender line step.before.offset text := by
  obtain ⟨above, below, steps⟩ := List.append_of_mem member
  have stands := follows.stands member
  have separated := stands.atBlank admits.labelled.atBoundary
  obtain ⟨reached, _, stops, taken⟩ := stands
  have word : step.before.word = text.toList := by
    have reads := taken.reads
    rw [literal] at reads
    exact reads.word_eq
  intro typed starts continues
  have solid : ∀ char ∈ typed.toList, isSolid char := fun char member =>
    Cursor.solid_of_mem_word (word ▸ starts.subset member)
  have line_eq : (lineBefore line step.before.offset ++ typed).toList =
      step.before.consumed ++ typed.toList := by
    rw [String.toList_append,
      lineBefore_offset (reached.line_eq.trans admits.labelled.line_eq)]
  obtain ⟨between, start, before, cutSeparated, cutAdmits⟩ :=
    admits.of_start separated reached stops line_eq
  obtain ⟨cut, cutFollows, place, among⟩ := follows.exists_cut steps start before solid
  have cutContinues : Text.Continues cut.place.remaining text.toList := by
    rw [place]
    exact .inr continues
  obtain ⟨suggestion, suggested, same, span⟩ :=
    exists_suggestion_of_literal cutAdmits cutSeparated cutFollows among literal cutContinues
  refine ⟨suggestion, suggested, same, fun static => ?_⟩
  rw [span static, place, before]
  exact ⟨rfl, byteLength_append _ _⟩

/-- All words that a line goes through are found from any start of them: its label and the
literals on its route. -/
theorem discovers_words (admits : command.Admits sender line label behind) :
    command.Discovers sender line 0 label ∧
      ∃ route, command.root.Follows sender Cursor.atBoundary behind route ∧
        (command.descend sender behind).nodes = command.root :: route.nodes ∧
          ∀ step ∈ route.steps, ∀ text, step.node.segment = .literal text →
            command.Discovers sender line step.before.offset text := by
  obtain ⟨route, follows⟩ := Node.exists_follows sender Cursor.atBoundary command.root behind
  refine ⟨discovers_label admits, route, follows, ?_, ?_⟩
  · rw [command.descend_of_follows follows]
  · intro step member text literal
    exact discovers_literal admits follows member literal

/-- A recipient may be called like the literal. -/
def letters : Command Unit where
  toDraft := .ofName "mail" [
    (Node.literal "send").executing fun _ => (),
    ((Node.argument "recipient" .word).suggesting
      (Provider.fixed [("send", some "online")])).executing fun _ => ()]
  sound := by decide

theorem discovers_send :
    let guest : Sender := ⟨"guest", [], false⟩
    letters.Admits guest "mail send" "mail" ⟨"mail".toList, " send".toList⟩ ∧
      ∃ suggestion ∈ (letters.suggestions guest "mail se").items, suggestion.text = "send" ∧
        suggestion.span.start = 5 ∧ suggestion.span.stop = 7 := by
  intro guest
  have admits : letters.Admits guest "mail send" "mail" ⟨"mail".toList, " send".toList⟩ :=
    ⟨Labelled.iff_eq.mpr ⟨by decide, by decide⟩, List.mem_cons_self, not_rejects_iff.mpr rfl⟩
  have static : letters.root.IsStatic := by
    refine .node (fun _ provided => nomatch provided) fun child member => ?_
    rcases List.mem_cons.mp member with rfl | other
    · exact .node (fun _ provided => nomatch provided) (fun _ below => nomatch below)
    · obtain rfl := List.mem_singleton.mp other
      exact .node (fun _ provided => ⟨_, (Option.some.inj provided).symm⟩)
        (fun _ below => nomatch below)
  obtain ⟨_, route, follows, _, discovers⟩ := discovers_words admits
  have taken : ((Node.literal "send").executing fun _ => ()).Takes guest Cursor.atBoundary
      (Cursor.mk "mail".toList " send".toList).skipBlanks none ⟨"mail send".toList, []⟩ :=
    ⟨rfl, .literal (by decide), rfl⟩
  have known : letters.root.Follows guest Cursor.atBoundary ⟨"mail".toList, " send".toList⟩ _ :=
    .step (by decide) (show letters.root.children = [] ++ _ :: _ from rfl)
      (fun _ earlier => nomatch earlier) taken (.exhausted rfl)
  obtain rfl := follows.unique known
  obtain ⟨suggestion, suggested, text, span⟩ :=
    discovers _ List.mem_cons_self "send" rfl "se" (by decide) (by decide)
  exact ⟨admits, suggestion, suggested, text, span static⟩

end Command

end CommandShell
