/-
This file shows that the amount and the kind of the blanks between the parts of a line do not
matter. A child that refuses a part still does so when the gaps of the line change, also if it is a
quotation that reaches over several parts, because blanks neither close quotes nor undo a fault.
-/

import CommandShell.Proofs.Answer

namespace CommandShell

open Argument Text

theorem Text.Quotation.Written.append_blanks {quote : Char} {blanks form value : List Char}
    (written : Written quote form value) (notBlank : isBlank quote = false)
    (blank : ∀ char ∈ blanks, isBlank char) :
    Written quote (blanks ++ form) (blanks ++ value) := by
  induction blanks with
  | nil => exact written
  | cons char blanks inductionHypothesis =>
      obtain ⟨separates, blank⟩ := List.forall_mem_cons.mp blank
      refine .plain ?_ ?_ (inductionHypothesis blank)
      · rintro rfl
        exact absurd (separates.symm.trans notBlank) (by decide)
      · rintro rfl
        exact absurd separates (by decide)

/-! ### Texts with other gaps -/

/-- A gap separates the parts of a line. -/
structure Text.IsGap (text : List Char) : Prop where
  nonempty : text ≠ []
  blank : ∀ char ∈ text, isBlank char

/-- Respaced texts differ in some of their gaps and in the blanks at their ends only. -/
inductive Text.Respaced : List Char → List Char → Prop where
  | ending {blanks others : List Char} (blank : ∀ char ∈ blanks, isBlank char)
      (otherBlank : ∀ char ∈ others, isBlank char) : Respaced blanks others
  | same {text other : List Char} (char : Char) (rest : Respaced text other) :
      Respaced (char :: text) (char :: other)
  | gap {gap otherGap text other : List Char} (isGap : IsGap gap) (otherIsGap : IsGap otherGap)
      (rest : Respaced text other) : Respaced (gap ++ text) (otherGap ++ other)

namespace Text.IsGap

variable {gap text : List Char}

theorem exists_cons (isGap : IsGap gap) : ∃ blank rest, gap = blank :: rest ∧ isBlank blank ∧
    ∀ char ∈ rest, isBlank char := by
  obtain ⟨blank, rest, rfl⟩ := List.exists_cons_of_ne_nil isGap.nonempty
  obtain ⟨separates, blank⟩ := List.forall_mem_cons.mp isGap.blank
  exact ⟨_, rest, rfl, separates, blank⟩

theorem atBlank (isGap : IsGap gap) (consumed text : List Char) :
    (Cursor.mk consumed (gap ++ text)).atBlank := by
  obtain ⟨blank, rest, rfl, separates, _⟩ := isGap.exists_cons
  exact separates

theorem atBoundary (isGap : IsGap gap) (consumed text : List Char) :
    (Cursor.mk consumed (gap ++ text)).atBoundary :=
  (Cursor.atBoundary_iff _).mpr (.inr (isGap.atBlank consumed text))

end Text.IsGap

theorem Cursor.atBoundary_of_blanks {consumed blanks : List Char}
    (blank : ∀ char ∈ blanks, isBlank char) : (mk consumed blanks).atBoundary := by
  cases blanks with
  | nil => rfl
  | cons first blanks => exact blank first List.mem_cons_self

namespace Text.Respaced

variable {text other : List Char}

theorem symm (respaced : Respaced text other) : Respaced other text := by
  induction respaced with
  | ending blank otherBlank => exact .ending otherBlank blank
  | same char _ inductionHypothesis => exact .same char inductionHypothesis
  | gap isGap otherIsGap _ inductionHypothesis => exact .gap otherIsGap isGap inductionHypothesis

theorem append (shared : List Char) (respaced : Respaced text other) :
    Respaced (shared ++ text) (shared ++ other) := by
  induction shared with
  | nil => exact respaced
  | cons char shared inductionHypothesis => exact .same char inductionHypothesis

/-- Characters other than blanks stay. -/
theorem exists_cons {char : Char} (respaced : Respaced (char :: text) other)
    (solid : isBlank char = false) : ∃ rest, other = char :: rest ∧ Respaced text rest := by
  generalize start : char :: text = whole at respaced
  cases respaced with
  | ending blank _ =>
      have separates := blank char (start ▸ List.mem_cons_self)
      exact absurd (separates.symm.trans solid) (by decide)
  | same _ rest =>
      obtain ⟨rfl, rfl⟩ := List.cons.inj start
      exact ⟨_, rfl, rest⟩
  | gap isGap _ _ =>
      obtain ⟨blank, gap, rfl, separates, _⟩ := isGap.exists_cons
      obtain ⟨rfl, _⟩ := List.cons.inj start
      exact absurd (separates.symm.trans solid) (by decide)

/-- In place of a blank there are blanks, and what is behind it is respaced. -/
theorem exists_blanks {blank : Char} (respaced : Respaced (blank :: text) other)
    (separates : isBlank blank) :
    ∃ blanks rest, other = blanks ++ rest ∧ (∀ char ∈ blanks, isBlank char) ∧
      Respaced text rest := by
  generalize start : blank :: text = whole at respaced
  cases respaced with
  | ending isBlank otherBlank =>
      subst start
      have behind := (List.forall_mem_cons.mp isBlank).2
      exact ⟨other, [], (List.append_nil other).symm, otherBlank, .ending behind (by simp)⟩
  | same _ rest =>
      obtain ⟨rfl, rfl⟩ := List.cons.inj start
      exact ⟨[blank], _, rfl, by simpa using separates, rest⟩
  | @gap gap otherGap behind others isGap otherIsGap rest =>
      obtain ⟨first, gap, rfl, _, gapBlank⟩ := isGap.exists_cons
      obtain ⟨rfl, rfl⟩ := List.cons.inj start
      cases gap with
      | nil => exact ⟨otherGap, others, rfl, otherIsGap.blank, rest⟩
      | cons second gap =>
          have isGap : IsGap (second :: gap) := ⟨List.cons_ne_nil second gap, gapBlank⟩
          exact ⟨[], _, rfl, by simp, .gap isGap otherIsGap rest⟩

/-- A boundary stays a boundary. -/
theorem atBoundary {consumed : List Char} (respaced : Respaced text other)
    (boundary : (Cursor.mk consumed text).atBoundary) (otherConsumed : List Char) :
    (Cursor.mk otherConsumed other).atBoundary := by
  cases respaced with
  | ending _ otherBlank => exact Cursor.atBoundary_of_blanks otherBlank
  | same char rest => exact boundary
  | gap _ otherIsGap _ => exact otherIsGap.atBoundary _ _

/-- The first word stays. -/
theorem word_eq (respaced : Respaced text other) (consumed otherConsumed : List Char) :
    (Cursor.mk consumed text).word = (Cursor.mk otherConsumed other).word := by
  have nothing {rest : List Char} (boundary : (Cursor.mk [] rest).atBoundary) :
      rest.takeWhile isSolid = [] :=
    @Cursor.word_append [] [] rest (by simp) boundary
  show text.takeWhile isSolid = other.takeWhile isSolid
  induction respaced with
  | ending blank otherBlank =>
      rw [nothing (Cursor.atBoundary_of_blanks blank),
        nothing (Cursor.atBoundary_of_blanks otherBlank)]
  | same char _ inductionHypothesis =>
      rw [List.takeWhile_cons, List.takeWhile_cons, inductionHypothesis]
  | gap isGap otherIsGap _ _ =>
      rw [nothing (isGap.atBoundary [] _), nothing (otherIsGap.atBoundary [] _)]

/-- Blanks inside of quotes are as good as others. -/
theorem exists_written {quote : Char} {form value tail : List Char}
    (written : Quotation.Written quote form value) (notBlank : isBlank quote = false)
    (respaced : Respaced (form ++ quote :: tail) other) :
    ∃ otherForm otherValue otherTail, Quotation.Written quote otherForm otherValue ∧
      other = otherForm ++ quote :: otherTail ∧ Respaced tail otherTail := by
  induction written generalizing other with
  | nil =>
      obtain ⟨rest, rfl, tails⟩ := respaced.exists_cons notBlank
      exact ⟨[], [], rest, .nil, rfl, tails⟩
  | @plain char form text notQuote notBackslash _ inductionHypothesis =>
      cases blank : isBlank char with
      | false =>
          obtain ⟨rest, rfl, behind⟩ := respaced.exists_cons blank
          obtain ⟨otherForm, otherValue, otherTail, otherWritten, rfl, tails⟩ :=
            inductionHypothesis behind
          exact ⟨char :: otherForm, char :: otherValue, otherTail,
            .plain notQuote notBackslash otherWritten, rfl, tails⟩
      | true =>
          obtain ⟨blanks, rest, rfl, areBlank, behind⟩ := respaced.exists_blanks blank
          obtain ⟨otherForm, otherValue, otherTail, otherWritten, rfl, tails⟩ :=
            inductionHypothesis behind
          exact ⟨blanks ++ otherForm, blanks ++ otherValue, otherTail,
            otherWritten.append_blanks notBlank areBlank, by simp, tails⟩
  | @escaped char form text special _ inductionHypothesis =>
      obtain ⟨escaped, rfl, behindBackslash⟩ := respaced.exists_cons (by decide)
      have solid : isBlank char = false := by
        rcases special with rfl | rfl
        · exact notBlank
        · decide
      obtain ⟨rest, rfl, behind⟩ := behindBackslash.exists_cons solid
      obtain ⟨otherForm, otherValue, otherTail, otherWritten, rfl, tails⟩ :=
        inductionHypothesis behind
      exact ⟨'\\' :: char :: otherForm, char :: otherValue, otherTail,
        .escaped special otherWritten, rfl, tails⟩

end Text.Respaced

/-! ### Parts that are taken before other gaps -/

section

variable {text other consumed : List Char} {after : Cursor}

theorem Cursor.any_isQuote_of_respaced (respaced : Respaced text other) (otherConsumed : List Char)
    (opened : (Cursor.mk consumed text).peek?.any isQuote) :
    (Cursor.mk otherConsumed other).peek?.any isQuote := by
  cases text with
  | nil => cases opened
  | cons quote text =>
      have opened : isQuote quote := opened
      obtain ⟨rest, rfl, _⟩ := respaced.exists_cons (Cursor.notBlank_of_isQuote opened)
      exact opened

/-- A quotation that ends at a boundary is closed at one in a respaced text, too. -/
theorem Cursor.exists_readPhrase_of_respaced {value : String} (respaced : Respaced text other)
    (success : readPhrase ⟨consumed, text⟩ = (.ok value, after)) (stops : after.atBoundary)
    (otherConsumed : List Char) :
    ∃ otherValue otherAfter, readPhrase ⟨otherConsumed, other⟩ = (.ok otherValue, otherAfter) ∧
      otherAfter.atBoundary := by
  unfold readPhrase at success ⊢
  by_cases opened : (mk consumed text).peek?.any isQuote
  · rw [if_pos opened] at success
    rw [if_pos (any_isQuote_of_respaced respaced otherConsumed opened)]
    cases text with
    | nil => cases opened
    | cons quote rest =>
        have opened : isQuote quote := opened
        have notBlank := Cursor.notBlank_of_isQuote opened
        obtain ⟨form, tail, written, rfl, rfl⟩ := exists_written opened success
        obtain ⟨_, rfl, behind⟩ := respaced.exists_cons notBlank
        obtain ⟨otherForm, otherValue, otherTail, otherWritten, rfl, tails⟩ :=
          behind.exists_written written notBlank
        rw [← String.toList_ofList (l := otherValue)] at otherWritten
        exact ⟨_, _, readQuotation_written opened otherWritten otherConsumed otherTail,
          tails.atBoundary stops _⟩
  · have unopened : ¬ (mk otherConsumed other).peek?.any isQuote :=
      mt (any_isQuote_of_respaced respaced.symm consumed) opened
    rw [if_neg unopened]
    exact ⟨_, _, rfl, atBoundary_skipWord _⟩

theorem Argument.Kind.exists_decode_of_respaced {kind : Kind} {value : Value}
    (respaced : Respaced text other) (success : kind.decode ⟨consumed, text⟩ = (.ok value, after))
    (stops : after.atBoundary) (otherConsumed : List Char) :
    ∃ otherValue otherAfter, kind.decode ⟨otherConsumed, other⟩ = (.ok otherValue, otherAfter) ∧
      otherAfter.atBoundary := by
  simp only [decode_eq_ok_iff] at success ⊢
  by_cases phrase : kind = .phrase
  · subst phrase
    cases read : Cursor.readPhrase ⟨consumed, text⟩ with
    | mk result left =>
        cases result with
        | error error => simp [Kind.read, read] at success
        | ok phrase =>
            simp only [Kind.read, read, Prod.mk.injEq] at success
            obtain ⟨_, rfl⟩ := success
            obtain ⟨otherPhrase, otherAfter, otherRead, otherStops⟩ :=
              Cursor.exists_readPhrase_of_respaced respaced read stops otherConsumed
            exact ⟨.text otherPhrase, otherAfter, by simp only [Kind.read, otherRead], otherStops⟩
  by_cases remainder : kind = .remainder
  · subst remainder
    refine ⟨_, _, rfl, ?_⟩
    simp [Cursor.atBoundary, Cursor.atEnd, Cursor.remaining_skipRemaining]
  · simp only [read_eq_readWord phrase remainder] at success ⊢
    unfold readWord at success ⊢
    rw [respaced.word_eq consumed otherConsumed] at success
    cases decoded : kind.ofWord (Cursor.mk otherConsumed other).word with
    | error fault => simp [decoded] at success
    | ok word => exact ⟨word, _, rfl, Cursor.atBoundary_skipWord _⟩

/-- A segment that ends at a boundary does so in a respaced text, too, but may read other values. -/
theorem Segment.Reads.exists_of_respaced {segment : Segment} {binding : Option (String × Value)}
    (reads : segment.Reads ⟨consumed, text⟩ binding after) (stops : after.atBoundary)
    (respaced : Respaced text other) (otherConsumed : List Char) :
    ∃ otherBinding otherAfter, segment.Reads ⟨otherConsumed, other⟩ otherBinding otherAfter ∧
      otherAfter.atBoundary := by
  cases reads with
  | literal same =>
      rw [respaced.word_eq consumed otherConsumed] at same
      exact ⟨_, _, .literal same, Cursor.atBoundary_skipWord _⟩
  | argument decoded =>
      obtain ⟨otherValue, otherAfter, otherDecoded, otherStops⟩ :=
        Kind.exists_decode_of_respaced respaced decoded stops otherConsumed
      exact ⟨_, otherAfter, .argument otherDecoded, otherStops⟩

/-- A child that refuses a part refuses it before other gaps. -/
theorem Node.Refuses.respaced {ω : Type} {sender : Sender} {child : Node ω}
    (refuses : child.Refuses sender Cursor.atBoundary ⟨consumed, text⟩)
    (respaced : Respaced text other) (otherConsumed : List Char) :
    child.Refuses sender Cursor.atBoundary ⟨otherConsumed, other⟩ := by
  intro binding after taken
  obtain ⟨otherBinding, otherAfter, reads, stops⟩ :=
    taken.reads.exists_of_respaced taken.accepted respaced.symm consumed
  exact refuses otherBinding otherAfter ⟨taken.visible, reads, stops⟩

end

/-! ### Spacing out -/

/-- A text spaces parts out if each of them stands behind a gap, and blanks may stand at its end. -/
inductive Text.SpacesOut : List (List Char) → List Char → Prop where
  | nil {blanks : List Char} (blank : ∀ char ∈ blanks, isBlank char) : SpacesOut [] blanks
  | cons {gap part text : List Char} {parts : List (List Char)} (isGap : IsGap gap)
      (rest : SpacesOut parts text) : SpacesOut (part :: parts) (gap ++ (part ++ text))

namespace Text.SpacesOut

variable {parts : List (List Char)} {text other : List Char}

theorem atBoundary (spaced : SpacesOut parts text) (consumed : List Char) :
    (Cursor.mk consumed text).atBoundary := by
  cases spaced with
  | nil blank => exact Cursor.atBoundary_of_blanks blank
  | cons isGap _ => exact isGap.atBoundary _ _

/-- Texts that space the same parts out are respaced. -/
theorem respaced (spaced : SpacesOut parts text) (otherSpaced : SpacesOut parts other) :
    Respaced text other := by
  induction spaced generalizing other with
  | nil blank =>
      cases otherSpaced with
      | nil otherBlank => exact .ending blank otherBlank
  | @cons _ part _ _ isGap _ inductionHypothesis =>
      cases otherSpaced with
      | cons otherIsGap otherRest =>
          exact .gap isGap otherIsGap ((inductionHypothesis otherRest).append part)

end Text.SpacesOut

/-- This is the text that a step has read. -/
def Step.text {ω : Type} (step : Step ω) : List Char :=
  step.after.consumed.drop step.before.consumed.length

/-- These are the texts that a route has read, without the blanks between them. -/
def Route.texts {ω : Type} (route : Route ω) : List (List Char) :=
  route.steps.map Step.text

theorem Step.text_eq {ω : Type} {step : Step ω} {part : List Char}
    (read : step.after.consumed = step.before.consumed ++ part) : step.text = part := by
  rw [text, read, List.drop_left]

@[simp]
theorem Route.texts_cons {ω : Type} (step : Step ω) (route : Route ω) :
    (route.cons step).texts = step.text :: route.texts := rfl

/-- Before what stands behind a boundary there is a gap. -/
theorem Cursor.exists_gap {cursor : Cursor} (boundary : cursor.atBoundary)
    (more : ¬ cursor.skipBlanks.atEnd) :
    ∃ gap, IsGap gap ∧ cursor.remaining = gap ++ cursor.skipBlanks.remaining := by
  obtain ⟨gap, blank, start, _⟩ := cursor.exists_blanks
  have remaining : cursor.remaining = gap ++ cursor.skipBlanks.remaining :=
    congrArg Cursor.remaining start
  refine ⟨gap, ⟨?_, blank⟩, remaining⟩
  rintro rfl
  rcases cursor.atBoundary_iff.mp boundary with ended | goesOn
  · exact more (atEnd_skipBlanks ended)
  · have stops := cursor.atBlank_skipBlanks
    rw [List.nil_append] at remaining
    rw [atBlank, peek?, ← remaining] at stops
    exact absurd (goesOn.symm.trans stops) (by decide)

namespace Node

variable {ω : Type} {sender : Sender} {node child : Node ω} {cursor before after : Cursor}
  {binding : Option (String × Value)} {route : Route ω} {rest : List Char}

/-- A part of a line starts with its first character other than a blank. -/
theorem Takes.exists_solid (taken : child.Takes sender Cursor.atBoundary before binding after)
    (more : ¬ before.atEnd) (solid : before.atBlank = false) :
    ∃ char part, isBlank char = false ∧
      before = ⟨before.consumed, char :: part ++ after.remaining⟩ ∧
        after = ⟨before.consumed ++ char :: part, after.remaining⟩ := by
  obtain ⟨text, start, arrives⟩ := taken.reads.reaches.exists_text
  cases text with
  | nil =>
      have same : before = after := by
        rw [List.nil_append] at start
        rw [List.append_nil] at arrives
        exact start.trans arrives.symm
      have boundary := taken.accepted
      rw [← same, Cursor.atBoundary_iff, solid] at boundary
      exact absurd boundary (by simp [more])
  | cons char part =>
      rw [start] at solid
      exact ⟨char, part, solid, start, arrives⟩

/-- A line that is used up consists of the texts on its route and of blanks. -/
theorem Follows.spacesOut (follows : node.Follows sender Cursor.atBoundary cursor route)
    (exhausted : route.ending = .exhausted) (boundary : cursor.atBoundary) :
    SpacesOut route.texts cursor.remaining := by
  induction follows with
  | @exhausted _ cursor ended =>
      obtain ⟨blanks, blank, start, _⟩ := cursor.exists_blanks
      rw [start, (Cursor.atEnd_iff _).mp ended, List.append_nil]
      exact .nil blank
  | stuck => cases exhausted
  | @step _ _ _ _ cursor after _ _ more _ _ taken _ inductionHypothesis =>
      obtain ⟨gap, isGap, remaining⟩ := Cursor.exists_gap boundary more
      obtain ⟨part, start, arrives⟩ := taken.reads.reaches.exists_text
      have rest := inductionHypothesis exhausted taken.accepted
      rw [remaining, congrArg Cursor.remaining start, Route.texts_cons,
        Step.text_eq (congrArg Cursor.consumed arrives)]
      exact .cons isGap rest

/-- A line with other gaps takes the same route if no node on it is greedy. -/
theorem Follows.exists_respaced (follows : node.Follows sender Cursor.atBoundary cursor route)
    (exhausted : route.ending = .exhausted)
    (notGreedy : ∀ other ∈ route.nodes, other.segment.isGreedy = false)
    (spaced : SpacesOut route.texts rest) (consumed : List Char) :
    ∃ other, node.Follows sender Cursor.atBoundary ⟨consumed, rest⟩ other ∧
      other.nodes = route.nodes ∧ other.arguments = route.arguments ∧
        other.ending = .exhausted := by
  induction follows generalizing rest consumed with
  | exhausted ended =>
      cases spaced with
      | nil blank =>
          have skipped := @Cursor.skipBlanks_append consumed rest [] blank rfl
          rw [List.append_nil] at skipped
          have otherEnded : (Cursor.mk consumed rest).skipBlanks.atEnd := by
            rw [skipped]
            rfl
          exact ⟨_, .exhausted otherEnded, rfl, rfl, rfl⟩
  | stuck => cases exhausted
  | @step _ child _ _ cursor after binding route more children refused taken follows
      inductionHypothesis =>
      obtain ⟨notGreedyHere, notGreedy⟩ := List.forall_mem_cons.mp notGreedy
      obtain ⟨char, part, solid, start, arrives⟩ :=
        taken.exists_solid more cursor.atBlank_skipBlanks
      rw [Route.texts_cons, Step.text_eq (congrArg Cursor.consumed arrives)] at spaced
      cases spaced with
      | @cons gap _ text _ isGap spaced =>
          have boundary := spaced.atBoundary (consumed ++ gap ++ char :: part)
          have skipped : (Cursor.mk consumed (gap ++ (char :: part ++ text))).skipBlanks =
              ⟨consumed ++ gap, char :: part ++ text⟩ :=
            Cursor.skipBlanks_append isGap.blank solid
          -- The siblings see the same part and behind it a text in which gaps differ.
          have respaced := ((follows.spacesOut exhausted taken.accepted).respaced spaced).append
            (char :: part)
          rw [start] at refused
          have reads := taken.reads
          rw [start, arrives] at reads
          have otherReads : child.segment.Reads ⟨consumed ++ gap, char :: part ++ text⟩ binding
              ⟨consumed ++ gap ++ char :: part, text⟩ :=
            reads.before_boundary notGreedyHere taken.accepted boundary
          obtain ⟨other, otherFollows, nodes, arguments, ending⟩ :=
            inductionHypothesis exhausted notGreedy spaced (consumed ++ gap ++ char :: part)
          rw [← skipped] at otherReads
          refine ⟨_, .step ?_ children ?_ ⟨taken.visible, otherReads, boundary⟩ otherFollows,
            ?_, ?_, ending⟩
          · rw [skipped, Cursor.atEnd_iff]
            exact List.cons_ne_nil char (part ++ text)
          · rw [skipped]
            exact fun sibling member => (refused sibling member).respaced respaced _
          · rw [Route.nodes_cons, Route.nodes_cons, nodes]
          · rw [Route.arguments_cons, Route.arguments_cons, arguments]

end Node

namespace Command

variable {ω : Type} {command : Command ω} {sender : Sender} {line : String} {call : Call ω}

/-- Gaps do not matter. A line that is called without a greedy argument calls the same executor with
the same arguments for all gaps between its label and the texts on its route. -/
theorem resolve_respaced (called : command.resolve sender line = .ok call) :
    ∃ behind route, Labelled line call.context.label behind ∧
      command.root.Follows sender Cursor.atBoundary behind route ∧
        (command.descend sender behind).nodes = command.root :: route.nodes ∧
          call.context.arguments = route.arguments ∧ SpacesOut route.texts behind.remaining ∧
            ((∀ node ∈ route.nodes, node.segment.isGreedy = false) →
              ∀ (other : String) (rest : List Char), SpacesOut route.texts rest →
                other.toList = call.context.label.toList ++ rest →
                  command.resolve sender other =
                      .ok { call with context := { call.context with line := other } } ∧
                    command.execute sender other =
                      .ok (call.executor { call.context with line := other })) := by
  obtain ⟨outcome, answers⟩ := command.exists_answer sender line
  obtain rfl : outcome = .ok call := (resolve_of_answers answers).symm.trans called
  cases answers with
  | @call label behind route above below node executor admits follows exhausted nodes executes
      last =>
      have boundary := admits.labelled.atBoundary
      have spaced := follows.spacesOut exhausted boundary
      refine ⟨behind, route, admits.labelled, follows, ?_, rfl, spaced, ?_⟩
      · rw [command.descend_of_follows follows]
      · intro notGreedy other rest otherSpaced other_eq
        obtain ⟨otherRoute, otherFollows, sameNodes, sameArguments, otherExhausted⟩ :=
          follows.exists_respaced exhausted notGreedy otherSpaced label.toList
        have otherLabelled : Labelled other label ⟨label.toList, rest⟩ :=
          .of_append admits.labelled.solid other_eq (otherSpaced.atBoundary _)
        rw [← sameNodes] at nodes
        have resolved := resolve_of_answers <|
          .call ⟨otherLabelled, admits.known, admits.usable⟩ otherFollows otherExhausted nodes
            executes last
        rw [sameArguments] at resolved
        refine ⟨resolved, ?_⟩
        rw [execute, resolved]
        rfl

/-- A quotation may be said as a whole, and otherwise there are two words. -/
def say : Command Arguments where
  toDraft := .ofName "say" [
    (Node.argument "quotation" .phrase).executing Context.arguments,
    (Node.argument "first" .word).followedBy [
      (Node.argument "second" .word).executing Context.arguments]]
  sound := by cbv

/-- What stands in quotes is not a quotation if more than a blank follows it. -/
theorem execute_say_respaced :
    let guest : Sender := ⟨"guest", [], false⟩
    let words : Arguments := [("first", .text "\"a"), ("second", .text "b\"c")]
    say.execute guest "say \"a b\"c" = .ok words ∧
      say.execute guest "say  \"a\t  b\"c " = .ok words := by
  intro guest words
  have labelled : Labelled "say \"a b\"c" "say" ⟨"say".toList, " \"a b\"c".toList⟩ :=
    Labelled.iff_eq.mpr ⟨by decide, by decide⟩
  have second : ((Node.argument "second" .word).executing Context.arguments).Takes guest
      Cursor.atBoundary (Cursor.mk "say \"a".toList " b\"c".toList).skipBlanks
      (some ("second", .text "b\"c")) ⟨"say \"a b\"c".toList, []⟩ :=
    ⟨rfl, .argument rfl, rfl⟩
  have first : ((Node.argument "first" .word).followedBy [
      (Node.argument "second" .word).executing Context.arguments]).Takes guest
      Cursor.atBoundary (Cursor.mk "say".toList " \"a b\"c".toList).skipBlanks
      (some ("first", .text "\"a")) ⟨"say \"a".toList, " b\"c".toList⟩ :=
    ⟨rfl, .argument rfl, rfl⟩
  have quotation : ((Node.argument "quotation" .phrase).executing Context.arguments).Refuses guest
      Cursor.atBoundary (Cursor.mk "say".toList " \"a b\"c".toList).skipBlanks :=
    Node.refuses_of_rejected (by decide : _ = Match.rejected none)
  have follows : say.root.Follows guest Cursor.atBoundary ⟨"say".toList, " \"a b\"c".toList⟩ _ :=
    .step (by decide) (show say.root.children = [_] ++ _ :: [] from rfl)
      (List.forall_mem_singleton.mpr quotation) first <|
    .step (by decide) (show _ = [] ++ _ :: [] from rfl) (fun _ earlier => nomatch earlier) second <|
    .exhausted rfl
  have called : say.resolve guest "say \"a b\"c" =
      .ok ⟨Context.arguments, ⟨guest, "say \"a b\"c", "say", words, say.heading⟩⟩ :=
    resolve_of_admits ⟨labelled, List.mem_cons_self, not_rejects_iff.mpr rfl⟩ follows
  have executed : say.execute guest "say \"a b\"c" = .ok words := by
    rw [execute, called]
    rfl
  obtain ⟨_, _, otherLabelled, otherFollows, _, _, _, respaced⟩ := resolve_respaced called
  obtain ⟨_, rfl⟩ := otherLabelled.unique labelled
  obtain rfl := otherFollows.unique follows
  have before : IsGap "  ".toList := ⟨by decide, List.all_eq_true.mp (by decide)⟩
  have between : IsGap "\t  ".toList := ⟨by decide, List.all_eq_true.mp (by decide)⟩
  have spaced : SpacesOut ["\"a".toList, "b\"c".toList] "  \"a\t  b\"c ".toList :=
    .cons before (.cons between (.nil (List.all_eq_true.mp (by decide))))
  exact ⟨executed, (respaced (by decide) _ _ spaced (by decide)).2⟩

end Command

end CommandShell
