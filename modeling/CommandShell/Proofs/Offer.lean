/-
This file says what the segments of a tree offer to continue a line from a place in it: their own
words, as far as these start with what has been typed, or what their providers make of the place.
-/

import CommandShell.Node.Basic
import CommandShell.Proofs.Batch
import CommandShell.Proofs.Cursor

namespace CommandShell

open Argument Text

/-! ### Texts that continue a line -/

/-- A text continues what has been typed if it starts with it, whatever the case. -/
def Text.Continues (typed text : List Char) : Prop :=
  typed = [] ∨ lowercase typed <+: lowercase text

/-- This is what stands behind a cursor. -/
def Cursor.rest (cursor : Cursor) : Span where
  start := cursor.offset
  stop := byteLength cursor.line
  ordered := by simp [offset, line]

/-- The texts that continue a line replace what stands behind the place. -/
structure Batch.Continues (batch : Batch) (place : Cursor) (texts : List String) : Prop where
  mem_iff : ∀ suggestion, suggestion ∈ batch.items ↔ suggestion.text ∈ texts ∧
    Text.Continues place.remaining suggestion.text.toList ∧ suggestion.tooltip = none ∧
      suggestion.span = place.rest
  span_eq : batch.span = if batch.items = [] then Span.empty place.offset else place.rest

theorem Batch.Continues.unique {batch other : Batch} {place : Cursor} {texts : List String}
    (first : batch.Continues place texts) (second : other.Continues place texts) :
    batch = other := by
  have sameItems : batch.items = other.items :=
    Suggestion.eq_of_mem_iff batch.sorted other.sorted fun suggestion =>
      (first.mem_iff suggestion).trans (second.mem_iff suggestion).symm
  have sameSpan : batch.span = other.span := by rw [first.span_eq, second.span_eq, sameItems]
  exact Batch.ext sameSpan sameItems

namespace Suggester

/-- This suggester completes what stands behind a place. -/
def behind (place : Cursor) : Suggester :=
  ⟨place.consumed, place.remaining, []⟩

theorem ofLine_offset {line : String} {place : Cursor} (line_eq : place.line = line.toList) :
    ofLine line place.offset = behind place := by
  rw [ofLine, ofList, ← line_eq, Cursor.line, Cursor.offset, cutDown_byteLength, behind]

theorem ofLine_zero (line : String) : ofLine line 0 = behind (Cursor.ofLine line) :=
  @ofLine_offset line (Cursor.ofLine line) rfl

theorem accepts_iff (suggester : Suggester) (text : String) :
    suggester.accepts text ↔ Continues suggester.typed text.toList := by
  rw [accepts, matchesList, Bool.or_eq_true, List.isEmpty_iff, List.isPrefixOf_iff_prefix,
    Continues]

/-- Of all values that are offered those that continue the typed text are accepted. -/
theorem foldl_offer_eq (suggester : Suggester) (values : List (String × Option String)) :
    values.foldl (fun suggester value => suggester.offer value.1 value.2) suggester =
      { suggester with
        accepted := suggester.accepted ++ (values.filter fun value =>
          suggester.accepts value.1).map fun value => ⟨suggester.span, value.1, value.2⟩ } := by
  induction values generalizing suggester with
  | nil => simp
  | cons value rest inductionHypothesis =>
      rw [List.foldl_cons, inductionHypothesis]
      by_cases accepted : suggester.accepts value.1
      · rw [offer, if_pos accepted, List.filter_cons, if_pos accepted, List.map_cons]
        simp only [List.append_assoc, List.singleton_append]
        rfl
      · rw [offer, if_neg accepted, List.filter_cons, if_neg accepted]

theorem suggestAll_eq (suggester : Suggester) (texts : List String) :
    suggester.suggestAll texts = { suggester with
      accepted := suggester.accepted ++ (texts.filter suggester.accepts).map fun text =>
        ⟨suggester.span, text, none⟩ } := by
  have offers := foldl_offer_eq suggester (texts.map (·, none))
  rw [List.foldl_map, List.filter_map, List.map_map] at offers
  exact offers

/-- A batch of suggestions that all replace the same part of a line covers just this part. -/
theorem span_batch {suggester : Suggester}
    (same : ∀ suggestion ∈ suggester.accepted, suggestion.span = suggester.span) :
    suggester.batch.span =
      if suggester.batch.items = [] then Span.empty suggester.anchor else suggester.span := by
  have items : suggester.batch.items = [] ↔ suggester.accepted = [] :=
    Suggestion.canonical_eq_nil_iff
  simp only [items]
  unfold batch
  cases accepted : suggester.accepted with
  | nil => rfl
  | cons first rest =>
      rw [accepted] at same
      have spans : ∀ other ∈ (first :: rest).map Suggestion.span, other = suggester.span :=
        List.forall_mem_map.mpr same
      exact (Span.isCover_foldl _ _).unique (Span.isCover_of_same spans)

theorem batch_continues (place : Cursor) (texts : List String) :
    ((behind place).suggestAll texts).batch.Continues place texts := by
  have accepted : ∀ suggestion, suggestion ∈ ((behind place).suggestAll texts).accepted ↔
      suggestion.text ∈ texts ∧ Text.Continues place.remaining suggestion.text.toList ∧
        suggestion.tooltip = none ∧ suggestion.span = place.rest := by
    rintro ⟨span, text, tooltip⟩
    rw [suggestAll_eq]
    simp only [behind, List.nil_append, List.mem_map, List.mem_filter, accepts_iff]
    constructor
    · rintro ⟨_, ⟨member, continues⟩, same⟩
      cases same
      exact ⟨member, continues, rfl, rfl⟩
    · rintro ⟨member, continues, rfl, rfl⟩
      exact ⟨text, ⟨member, continues⟩, rfl⟩
  refine ⟨fun suggestion => ?_, ?_⟩
  · rw [← accepted]
    refine Suggestion.mem_canonical_iff.trans ⟨Suggestion.Chosen.mem, fun member => ⟨member, ?_⟩⟩
    intro other among text
    obtain ⟨_, _, tooltip, span⟩ := (accepted suggestion).mp member
    obtain ⟨_, _, otherTooltip, otherSpan⟩ := (accepted other).mp among
    have same : other = suggestion :=
      Suggestion.ext (otherSpan.trans span.symm) text (otherTooltip.trans tooltip.symm)
    rw [same]
    exact suggestion.isLE_refl
  · have anchor : ((behind place).suggestAll texts).anchor = place.offset := by
      rw [suggestAll_eq]
      rfl
    have span : ((behind place).suggestAll texts).span = place.rest := by
      rw [suggestAll_eq]
      rfl
    rw [span_batch, anchor, span]
    intro suggestion member
    rw [span]
    exact ((accepted suggestion).mp member).2.2.2

end Suggester

/-! ### What a segment offers -/

namespace Segment

/-- A literal offers its text and a boolean argument its two values, as far as they continue the
line. A provider is given the context and what stands behind the place. -/
inductive Offers (context : Context) (place : Cursor) : Segment → Batch → Prop where
  | literal {text : String} {batch : Batch} (continues : batch.Continues place [text]) :
      Offers context place (.literal text) batch
  | boolean {name : String} {batch : Batch}
      (continues : batch.Continues place ["true", "false"]) :
      Offers context place (.argument name .boolean none) batch
  | nothing {name : String} {kind : Kind} {batch : Batch} (notBoolean : kind ≠ .boolean)
      (continues : batch.Continues place []) : Offers context place (.argument name kind none) batch
  | provided {name : String} {kind : Kind} {provider : Provider} :
      Offers context place (.argument name kind (some provider))
        (provider context (Suggester.behind place))

variable {segment : Segment} {context : Context} {place : Cursor} {batch other : Batch}

theorem offers_suggestions (segment : Segment) (context : Context) (place : Cursor) :
    segment.Offers context place (segment.suggestions context (Suggester.behind place)) := by
  cases segment with
  | literal text => exact .literal (Suggester.batch_continues place [text])
  | argument name kind provider =>
      cases provider with
      | some provider => exact .provided
      | none =>
          by_cases boolean : kind = .boolean
          · subst boolean
            exact .boolean (Suggester.batch_continues place ["true", "false"])
          · have nothing : kind.offer (Suggester.behind place) =
                (Suggester.behind place).batch := by
              cases kind <;> first | rfl | contradiction
            rw [suggestions, nothing]
            exact .nothing boolean (Suggester.batch_continues place [])

theorem Offers.unique (first : segment.Offers context place batch)
    (second : segment.Offers context place other) : batch = other := by
  cases first with
  | literal continues =>
      cases second with
      | literal otherContinues => exact continues.unique otherContinues
  | boolean continues =>
      cases second with
      | boolean otherContinues => exact continues.unique otherContinues
      | nothing notBoolean => exact absurd rfl notBoolean
  | nothing notBoolean continues =>
      cases second with
      | boolean => exact absurd rfl notBoolean
      | nothing _ otherContinues => exact continues.unique otherContinues
  | provided =>
      cases second
      rfl

theorem offers_iff : segment.Offers context place batch ↔
    batch = segment.suggestions context (Suggester.behind place) := by
  constructor
  · intro offers
    exact offers.unique (segment.offers_suggestions context place)
  · rintro rfl
    exact segment.offers_suggestions context place

end Segment

end CommandShell
