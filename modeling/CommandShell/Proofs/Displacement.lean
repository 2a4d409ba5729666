/-
This file shows that neither reading nor suggesting looks back. In a line with one more text in
front the same is read and suggested, and offsets are greater by the length of the text.
-/

import CommandShell.Proofs.Offer
import CommandShell.Proofs.Route

namespace CommandShell

open Argument Text

/-! ### Cursors -/

/-- This is the error in a line with so many more bytes in front. -/
def Argument.DecodeError.displace (count : Nat) (error : DecodeError) : DecodeError :=
  { error with position := count + error.position }

namespace Cursor

/-- This is the place in a line with one more text in front. -/
def displace (front : List Char) (cursor : Cursor) : Cursor :=
  ⟨front ++ cursor.consumed, cursor.remaining⟩

/-- This is what is read in a line with one more text in front. -/
def displaceRead {α : Type} (front : List Char) :
    Except DecodeError α × Cursor → Except DecodeError α × Cursor
  | (.ok value, left) => (.ok value, left.displace front)
  | (.error error, left) => (.error (error.displace (byteLength front)), left.displace front)

variable (front : List Char) (cursor : Cursor)

@[simp]
theorem line_displace : (cursor.displace front).line = front ++ cursor.line :=
  List.append_assoc front cursor.consumed cursor.remaining

@[simp]
theorem offset_displace : (cursor.displace front).offset = byteLength front + cursor.offset :=
  byteLength_append front cursor.consumed

@[simp]
theorem advance_displace (count : Nat) :
    (cursor.displace front).advance count = (cursor.advance count).displace front := by
  simp [advance, displace]

@[simp]
theorem word_displace : (cursor.displace front).word = cursor.word := rfl

theorem skipBlanks_displace :
    (cursor.displace front).skipBlanks = cursor.skipBlanks.displace front :=
  advance_displace front cursor _

theorem skipWord_displace : (cursor.displace front).skipWord = cursor.skipWord.displace front :=
  advance_displace front cursor _

theorem skipRemaining_displace :
    (cursor.displace front).skipRemaining = cursor.skipRemaining.displace front :=
  advance_displace front cursor _

theorem leave_displace (remainder : List Char) :
    (cursor.displace front).leave remainder = (cursor.leave remainder).displace front :=
  advance_displace front cursor _

theorem readQuotation_displace :
    (cursor.displace front).readQuotation = displaceRead front cursor.readQuotation := by
  obtain ⟨consumed, remaining⟩ := cursor
  cases remaining with
  | nil => rfl
  | cons quote rest =>
      have left := leave_displace front ⟨consumed, quote :: rest⟩
        (Quotation.read quote rest).remainder
      unfold readQuotation
      simp only [displace] at left ⊢
      by_cases opened : isQuote quote
      · simp only [opened, ↓reduceIte, left]
        cases result : (Quotation.read quote rest).result with
        | ok text => rfl
        | error fault =>
            cases fault <;> simp [displaceRead, DecodeError.displace, displace, offset]
      · simp [opened, displaceRead, DecodeError.displace, displace, offset]

theorem readPhrase_displace :
    (cursor.displace front).readPhrase = displaceRead front cursor.readPhrase := by
  have samePeek : (cursor.displace front).peek? = cursor.peek? := rfl
  unfold readPhrase
  rw [samePeek, readQuotation_displace, word_displace, skipWord_displace]
  by_cases opened : cursor.peek?.any isQuote
  · rw [if_pos opened, if_pos opened]
  · rw [if_neg opened, if_neg opened]
    rfl

end Cursor

namespace Argument.Kind

variable (front : List Char) (cursor : Cursor) (kind : Kind)

theorem readWord_displace :
    kind.readWord (cursor.displace front) = Cursor.displaceRead front (kind.readWord cursor) := by
  unfold readWord
  rw [Cursor.word_displace, Cursor.skipWord_displace, Cursor.offset_displace]
  cases kind.ofWord cursor.word <;> rfl

theorem read_displace :
    kind.read (cursor.displace front) = Cursor.displaceRead front (kind.read cursor) := by
  by_cases phrase : kind = .phrase
  · subst phrase
    unfold read
    rw [Cursor.readPhrase_displace]
    obtain ⟨result, left⟩ := cursor.readPhrase
    cases result <;> rfl
  by_cases remainder : kind = .remainder
  · subst remainder
    unfold read
    rw [Cursor.skipRemaining_displace]
    rfl
  · rw [read_eq_readWord phrase remainder, read_eq_readWord phrase remainder, readWord_displace]

theorem decode_displace :
    kind.decode (cursor.displace front) = Cursor.displaceRead front (kind.decode cursor) := by
  have reached := kind.reaches_read cursor
  unfold decode
  rw [read_displace]
  cases read : kind.read cursor with
  | mk result left =>
      rw [read] at reached
      cases result with
      | ok value => rfl
      | error error =>
          have back := Cursor.moveTo_offset reached.line_eq
          have otherBack : (left.displace front).moveTo (cursor.displace front).offset =
              cursor.displace front := by
            apply Cursor.moveTo_offset
            rw [Cursor.line_displace, Cursor.line_displace, reached.line_eq]
          simp only [Cursor.displaceRead, otherBack, back]

end Argument.Kind

/-! ### Segments and routes -/

namespace Segment

variable {front : List Char} {cursor after : Cursor} {segment : Segment}
  {binding : Option (String × Value)}

theorem Reads.displace (reads : segment.Reads cursor binding after) (front : List Char) :
    segment.Reads (cursor.displace front) binding (after.displace front) := by
  cases reads with
  | literal same =>
      rw [← Cursor.skipWord_displace]
      exact .literal same
  | argument decoded =>
      apply Reads.argument
      rw [Kind.decode_displace, decoded]
      rfl

theorem Reads.exists_of_displace (reads : segment.Reads (cursor.displace front) binding after) :
    ∃ place, after = place.displace front ∧ segment.Reads cursor binding place := by
  cases reads with
  | literal same => exact ⟨_, cursor.skipWord_displace front, .literal same⟩
  | @argument name kind provider value after decoded =>
      rw [Kind.decode_displace] at decoded
      cases read : kind.decode cursor with
      | mk result left =>
          cases result with
          | error error => simp [read, Cursor.displaceRead] at decoded
          | ok other =>
              simp only [read, Cursor.displaceRead, Prod.mk.injEq, Except.ok.injEq] at decoded
              obtain ⟨rfl, rfl⟩ := decoded
              exact ⟨left, rfl, .argument read⟩

theorem fault?_displace (segment : Segment) (front : List Char) (cursor : Cursor) :
    segment.fault? (cursor.displace front) =
      (segment.fault? cursor).map (DecodeError.displace (byteLength front)) := by
  cases segment with
  | literal text => rfl
  | argument name kind provider =>
      simp only [fault?, Kind.decode_displace]
      obtain ⟨result, left⟩ := kind.decode cursor
      cases result <;> rfl

end Segment

/-- This is the ending in a line with so many more bytes in front. -/
def Ending.displace (count : Nat) : Ending → Ending
  | .exhausted => .exhausted
  | .stuck cause => .stuck (cause.map (DecodeError.displace count))

namespace Route

variable {ω : Type} (front : List Char) (route : Route ω)

/-- This is the route of the line with one more text in front. -/
def displace : Route ω where
  steps := route.steps.map fun step =>
    { step with before := step.before.displace front, after := step.after.displace front }
  place := route.place.displace front
  ending := route.ending.displace (byteLength front)

@[simp]
theorem place_displace : (route.displace front).place = route.place.displace front := rfl

@[simp]
theorem ending_displace :
    (route.displace front).ending = route.ending.displace (byteLength front) := rfl

@[simp]
theorem nodes_displace : (route.displace front).nodes = route.nodes := by
  simp [displace, nodes]

@[simp]
theorem arguments_displace : (route.displace front).arguments = route.arguments := by
  rw [displace, arguments, arguments, List.filterMap_map]
  rfl

@[simp]
theorem executor?_displace : (route.displace front).executor? = route.executor? := by
  rw [executor?, executor?, nodes_displace]

end Route

namespace Node

variable {ω : Type} {sender : Sender} {acceptable : Cursor → Bool} {front : List Char}
  {node child : Node ω} {cursor before after : Cursor} {binding : Option (String × Value)}
  {route : Route ω}

theorem Takes.displace (taken : child.Takes sender acceptable before binding after)
    (blind : ∀ cursor : Cursor, acceptable (cursor.displace front) = acceptable cursor) :
    child.Takes sender acceptable (before.displace front) binding (after.displace front) :=
  ⟨taken.visible, taken.reads.displace front, (blind after).trans taken.accepted⟩

theorem Refuses.displace (refuses : child.Refuses sender acceptable before)
    (blind : ∀ cursor : Cursor, acceptable (cursor.displace front) = acceptable cursor) :
    child.Refuses sender acceptable (before.displace front) := by
  intro binding after taken
  obtain ⟨place, rfl, reads⟩ := taken.reads.exists_of_displace
  exact refuses binding place ⟨taken.visible, reads, (blind place).symm.trans taken.accepted⟩

theorem lastFault_displace (sender : Sender) (front : List Char) (place : Cursor)
    (children : List (Node ω)) :
    lastFault sender (place.displace front) children =
      (lastFault sender place children).map (DecodeError.displace (byteLength front)) := by
  simp only [lastFault, Segment.fault?_displace, ← List.getLast?_map, List.map_filterMap]

/-- A line with one more text in front takes the same route behind the text. -/
theorem Follows.displace (follows : node.Follows sender acceptable cursor route)
    (blind : ∀ cursor : Cursor, acceptable (cursor.displace front) = acceptable cursor) :
    node.Follows sender acceptable (cursor.displace front) (route.displace front) := by
  induction follows with
  | @exhausted node cursor ended =>
      have skipped := cursor.skipBlanks_displace front
      have exhausted : node.Follows sender acceptable (cursor.displace front) _ :=
        .exhausted (skipped ▸ ended)
      rwa [skipped] at exhausted
  | @stuck node cursor more refused =>
      have skipped := cursor.skipBlanks_displace front
      have stuck : node.Follows sender acceptable (cursor.displace front) _ :=
        .stuck (skipped ▸ more) fun child member =>
          skipped ▸ (refused child member).displace blind
      rwa [skipped, lastFault_displace] at stuck
  | @step node _ _ _ cursor _ _ _ more children refused taken _ inductionHypothesis =>
      have skipped := cursor.skipBlanks_displace front
      have step : node.Follows sender acceptable (cursor.displace front) _ :=
        .step (skipped ▸ more) children
          (fun other member => skipped ▸ (refused other member).displace blind)
          (skipped ▸ taken.displace blind) inductionHypothesis
      rwa [skipped] at step

end Node

/-! ### Suggestions -/

namespace Span

/-- This is the span in a line with so many more bytes in front. -/
def displace (count : Nat) (span : Span) : Span where
  start := count + span.start
  stop := count + span.stop
  ordered := Nat.add_le_add_left span.ordered count

variable (count : Nat)

theorem compare_displace (left right : Span) :
    Ord.compare (left.displace count) (right.displace count) = Ord.compare left right := by
  have shifted (first second : Nat) :
      Ord.compare (count + first) (count + second) = Ord.compare first second := by
    simp only [Nat.compare_eq_ite_lt, Nat.add_lt_add_iff_left]
  show (Ord.compare (count + left.start) (count + right.start)).then
    (Ord.compare (count + left.stop) (count + right.stop)) = _
  rw [shifted, shifted]
  rfl

theorem cover_displace (left right : Span) :
    (left.displace count).cover (right.displace count) = (left.cover right).displace count := by
  apply Span.ext <;> simp only [cover, displace] <;> omega

theorem foldl_cover_displace (first : Span) (rest : List Span) :
    (rest.map (displace count)).foldl cover (first.displace count) =
      (rest.foldl cover first).displace count := by
  rw [List.foldl_map]
  apply List.foldl_hom
  intro left right
  exact cover_displace count left right

end Span

namespace Suggestion

def displace (count : Nat) (suggestion : Suggestion) : Suggestion :=
  { suggestion with span := suggestion.span.displace count }

variable (count : Nat)

theorem compare_displace (left right : Suggestion) :
    (left.displace count).compare (right.displace count) = left.compare right := by
  simp only [compare, compareLex, compareOn, lowered, displace, Span.compare_displace]

theorem keepFirst_map_displace (suggestions : List Suggestion) :
    keepFirst (suggestions.map (displace count)) =
      (keepFirst suggestions).map (displace count) := by
  induction suggestions with
  | nil => rfl
  | cons suggestion rest inductionHypothesis =>
      rw [List.map_cons, keepFirst, keepFirst, List.map_cons, inductionHypothesis, List.filter_map]
      rfl

theorem canonical_map_displace (suggestions : List Suggestion) :
    canonical (suggestions.map (displace count)) =
      (canonical suggestions).map (displace count) := by
  unfold canonical
  rw [← keepFirst_map_displace]
  congr 1
  symm
  apply List.map_mergeSort
  intro left _ right _
  rw [compare_displace]

end Suggestion

namespace Batch

def displace (count : Nat) (batch : Batch) : Batch where
  span := batch.span.displace count
  items := batch.items.map (Suggestion.displace count)
  sorted := by
    rw [List.pairwise_map]
    refine batch.sorted.imp fun precedes => ?_
    exact ⟨(Suggestion.compare_displace count _ _).trans precedes.1, precedes.2⟩

variable (count : Nat)

theorem ofList_displace (span : Span) (suggestions : List Suggestion) :
    ofList (span.displace count) (suggestions.map (Suggestion.displace count)) =
      (ofList span suggestions).displace count :=
  Batch.ext rfl (Suggestion.canonical_map_displace count suggestions)

theorem map_span_displace (batches : List Batch) :
    (batches.map (displace count)).map span = (batches.map span).map (Span.displace count) := by
  simp only [List.map_map]
  rfl

theorem flatMap_items_displace (batches : List Batch) :
    (batches.map (displace count)).flatMap items =
      (batches.flatMap items).map (Suggestion.displace count) := by
  rw [List.flatMap_map, List.map_flatMap]
  rfl

theorem merge_map_displace {batches : List Batch} (nonempty : batches ≠ []) :
    merge (batches.map (displace count)) = (merge batches).displace count := by
  match batches with
  | [] => exact absurd rfl nonempty
  | [batch] => rfl
  | first :: second :: rest =>
      have spans := map_span_displace count (second :: rest)
      have items := flatMap_items_displace count (first :: second :: rest)
      unfold merge
      rw [← ofList_displace, ← Span.foldl_cover_displace, ← spans, ← items]
      rfl

end Batch

namespace Suggester

/-- This completes the same text in a line with one more text in front. -/
def displace (front : List Char) (suggester : Suggester) : Suggester where
  before := front ++ suggester.before
  typed := suggester.typed
  accepted := suggester.accepted.map (Suggestion.displace (byteLength front))

variable (front : List Char) (suggester : Suggester)

theorem behind_displace (place : Cursor) :
    behind (place.displace front) = (behind place).displace front := rfl

theorem span_displace :
    (suggester.displace front).span = suggester.span.displace (byteLength front) := by
  apply Span.ext
  · exact byteLength_append front suggester.before
  · simp [span, line, displace, Span.displace]

theorem offer_displace (text : String) (tooltip : Option String) :
    (suggester.displace front).offer text tooltip =
      (suggester.offer text tooltip).displace front := by
  have accepts : (suggester.displace front).accepts text = suggester.accepts text := rfl
  unfold offer
  rw [accepts]
  by_cases accepted : suggester.accepts text
  · rw [if_pos accepted, if_pos accepted, span_displace]
    simp [displace, Suggestion.displace]
  · rw [if_neg accepted, if_neg accepted]

theorem batch_displace :
    (suggester.displace front).batch = suggester.batch.displace (byteLength front) := by
  have anchor : (suggester.displace front).anchor = byteLength front + suggester.anchor :=
    byteLength_append front suggester.before
  have spans : (suggester.displace front).accepted.map Suggestion.span =
      (suggester.accepted.map Suggestion.span).map (Span.displace (byteLength front)) := by
    simp only [displace, List.map_map]
    rfl
  unfold batch
  rw [← Batch.ofList_displace, spans]
  cases suggester.accepted.map Suggestion.span with
  | nil =>
      show Batch.ofList (Span.empty _) _ = _
      rw [anchor]
      rfl
  | cons first rest =>
      show Batch.ofList (List.foldl _ _ _) _ = Batch.ofList (Span.displace _ (List.foldl _ _ _)) _
      rw [← Span.foldl_cover_displace]
      rfl

theorem foldl_offer_displace (values : List (String × Option String)) :
    values.foldl (fun suggester value => suggester.offer value.1 value.2)
        (suggester.displace front) =
      (values.foldl (fun suggester value => suggester.offer value.1 value.2) suggester).displace
        front := by
  apply List.foldl_hom
  intro suggester value
  exact offer_displace front suggester value.1 value.2

end Suggester

end CommandShell
