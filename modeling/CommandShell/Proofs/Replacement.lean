/-
This file shows that completions are safe to accept. Providers may anchor their suggestions anew as
often as they like: whatever they make of a suggester replaces the text right in front of the place of
completion, from a boundary on, and nothing else of the line.
-/

import CommandShell.Proofs.Boundary
import CommandShell.Proofs.Gathering
import CommandShell.Proofs.Suggestion
import CommandShell.Shell.Menu

namespace CommandShell

open Argument Text

/-! ### What operations make of a suggester -/

namespace Suggester

/-- These suggesters are made of another by any number of operations. -/
inductive Makes (origin : Suggester) : Suggester → Prop where
  | origin : Makes origin origin
  | offer {suggester : Suggester} (made : Makes origin suggester) (text : String)
      (tooltip : Option String) : Makes origin (suggester.offer text tooltip)
  | restart {suggester : Suggester} (made : Makes origin suggester) :
      Makes origin suggester.restart
  | restartAt {suggester : Suggester} (made : Makes origin suggester) (offset : Nat) :
      Makes origin (suggester.restartAt offset)

/-- These batches are collected by suggesters made of one, and merged from such batches. -/
inductive Gives (origin : Suggester) : Batch → Prop where
  | batch {suggester : Suggester} (made : origin.Makes suggester) : Gives origin suggester.batch
  | merge {batches : List Batch} (given : ∀ batch ∈ batches, Gives origin batch) :
      Gives origin (.merge batches)

variable {origin suggester : Suggester}

theorem Makes.suggestAll (made : origin.Makes suggester) (texts : List String) :
    origin.Makes (suggester.suggestAll texts) := by
  induction texts generalizing suggester with
  | nil => exact made
  | cons text rest inductionHypothesis => exact inductionHypothesis (made.offer text none)

theorem makes_foldl_offer (origin : Suggester) (values : List (String × Option String)) :
    origin.Makes
      (values.foldl (fun suggester value => suggester.offer value.1 value.2) origin) := by
  suffices made : ∀ suggester, origin.Makes suggester → origin.Makes
      (values.foldl (fun suggester value => suggester.offer value.1 value.2) suggester) from
    made origin .origin
  intro suggester made
  induction values generalizing suggester with
  | nil => exact made
  | cons value rest inductionHypothesis =>
      exact inductionHypothesis _ (made.offer value.1 value.2)

end Suggester

/-- An operational provider gives nothing but what operations make of its suggester. -/
def Provider.IsOperational (provider : Provider) : Prop :=
  ∀ context line offset,
    (Suggester.ofLine line offset).Gives (provider context (Suggester.ofLine line offset))

theorem Provider.isOperational_fixed (values : List (String × Option String)) :
    (Provider.fixed values).IsOperational :=
  fun _ _ _ => .batch (Suggester.makes_foldl_offer _ values)

def Segment.IsOperational (segment : Segment) : Prop :=
  ∀ provider, segment.provider? = some provider → provider.IsOperational

theorem Segment.IsOperational.gives {segment : Segment} (operational : segment.IsOperational)
    (context : Context) (line : String) (offset : Nat) :
    (Suggester.ofLine line offset).Gives
      (segment.suggestions context (Suggester.ofLine line offset)) := by
  cases segment with
  | literal text => exact .batch (.offer .origin text none)
  | argument name kind provider =>
      cases provider with
      | some provider => exact operational provider rfl context line offset
      | none =>
          cases kind with
          | boolean => exact .batch (Suggester.Makes.origin.suggestAll ["true", "false"])
          | _ => exact .batch .origin

/-! ### Suggestions in front of a place -/

/-- A span ends a text if it reaches from a boundary of it to its end. -/
def Span.Ends (span : Span) (text : List Char) : Prop :=
  span.stop = byteLength text ∧ IsBoundary text span.start

namespace Suggester

variable {suggester : Suggester} {line : List Char}

/-- All that has been accepted replaces an end of the line. -/
structure Completes (suggester : Suggester) (line : List Char) : Prop where
  line_eq : suggester.line = line
  ends : ∀ suggestion ∈ suggester.accepted, suggestion.span.Ends line

theorem completes_ofList (line : List Char) (offset : Nat) : (ofList line offset).Completes line where
  line_eq := cutDown_append offset line
  ends _ member := nomatch member

theorem Completes.offer (completes : suggester.Completes line) (text : String)
    (tooltip : Option String) : (suggester.offer text tooltip).Completes line := by
  obtain ⟨rfl, ends⟩ := completes
  unfold Suggester.offer
  split
  · refine ⟨rfl, fun suggestion member => ?_⟩
    rcases List.mem_append.mp member with earlier | last
    · exact ends suggestion earlier
    · obtain rfl := List.mem_singleton.mp last
      exact ⟨rfl, isBoundary_append suggester.before suggester.typed⟩
  · exact ⟨rfl, ends⟩

theorem Makes.completes {origin : Suggester} (made : origin.Makes suggester)
    (completes : origin.Completes line) : suggester.Completes line := by
  induction made with
  | origin => exact completes
  | offer _ text tooltip inductionHypothesis => exact inductionHypothesis.offer text tooltip
  | restart _ inductionHypothesis =>
      exact ⟨inductionHypothesis.line_eq, fun _ member => nomatch member⟩
  | restartAt _ offset inductionHypothesis =>
      rw [Suggester.restartAt, inductionHypothesis.line_eq]
      exact completes_ofList line offset

end Suggester

namespace Batch

variable {line : List Char}

/-- The suggestions of a batch replace ends of a line, within the span of the batch. -/
structure Completes (batch : Batch) (line : List Char) : Prop where
  ends : ∀ suggestion ∈ batch.items, suggestion.span.Ends line
  covers : ∀ suggestion ∈ batch.items, batch.span.Covers suggestion.span

theorem completes_empty (offset : Nat) (line : List Char) : (empty offset).Completes line where
  ends _ member := nomatch member
  covers _ member := nomatch member

theorem completes_batch {suggester : Suggester} (completes : suggester.Completes line) :
    suggester.batch.Completes line := by
  have mem_accepted : ∀ suggestion ∈ suggester.batch.items, suggestion ∈ suggester.accepted :=
    fun _ member => (Suggestion.mem_canonical_iff.mp member).mem
  refine ⟨fun suggestion member => completes.ends _ (mem_accepted suggestion member), ?_⟩
  intro suggestion member
  have among := List.mem_map_of_mem (f := Suggestion.span) (mem_accepted suggestion member)
  unfold Suggester.batch
  cases spans : suggester.accepted.map Suggestion.span with
  | nil =>
      rw [spans] at among
      cases among
  | cons first rest =>
      rw [spans] at among
      exact (Span.isCover_foldl first rest).covers _ among

theorem completes_merge {batches : List Batch} (completes : ∀ batch ∈ batches, batch.Completes line) :
    (merge batches).Completes line := by
  have source : ∀ suggestion ∈ (merge batches).items,
      ∃ batch ∈ batches, suggestion ∈ batch.items :=
    fun _ member => List.mem_flatMap.mp (mem_merge_iff.mp member).mem
  constructor
  · intro suggestion member
    obtain ⟨batch, among, inside⟩ := source suggestion member
    exact (completes batch among).ends suggestion inside
  · intro suggestion member
    obtain ⟨batch, among, inside⟩ := source suggestion member
    have isCover := (joins_merge (List.ne_nil_of_mem among)).isCover
    exact (isCover.covers _ (List.mem_map_of_mem among)).trans
      ((completes batch among).covers suggestion inside)

end Batch

/-- However a batch is made of a suggester, its suggestions replace ends of the same line. -/
theorem Suggester.Gives.completes {line : List Char} {origin : Suggester} {batch : Batch}
    (given : origin.Gives batch) (completes : origin.Completes line) : batch.Completes line := by
  induction given with
  | batch made => exact Batch.completes_batch (made.completes completes)
  | merge _ inductionHypothesis => exact Batch.completes_merge inductionHypothesis

theorem Suggester.completes_suggestAll (line : String) (texts : List String) :
    ((ofLine line 0).suggestAll texts).batch.Completes line.toList :=
  (Gives.batch (Makes.origin.suggestAll texts)).completes (completes_ofList line.toList 0)

/-! ### Completing a line -/

/-- All providers in an operational tree are operational. -/
def Node.IsOperational {ω : Type} (node : Node ω) : Prop :=
  node.Throughout fun node => node.segment.IsOperational

theorem Command.completes_suggestions {ω : Type} {command : Command ω}
    (operational : command.root.IsOperational) (sender : Sender) (line : String) :
    (command.suggestions sender line).Completes line.toList := by
  obtain ⟨batch, suggests⟩ := exists_suggests command sender line
  rw [suggestions_of_suggests suggests]
  cases suggests with
  | rejected | unknown | nothing => exact Batch.completes_empty _ _
  | labels _ _ _ continues =>
      rw [← (Suggester.batch_continues _ _).unique continues, ← Suggester.ofLine_zero]
      exact Suggester.completes_suggestAll line command.labels
  | children some offered joins =>
      rw [← joins.eq_merge some]
      refine Batch.completes_merge fun other among => ?_
      obtain ⟨admits, _, follows, member, offers⟩ := (offered other).mp among
      have last := follows.last_of_inherited operational fun _ _ =>
        Node.Throughout.of_mem_children
      have own := (last.of_mem_children (List.mem_filter.mp member).1).own
      have line_eq := follows.reaches.line_eq.trans admits.labelled.line_eq
      rw [Segment.offers_iff.mp offers, ← Suggester.ofLine_offset line_eq]
      exact (own.gives _ _ _).completes (Suggester.completes_ofList _ _)

/-- This is what accepting an item of a menu does. -/
def Shell.MenuItem.suggestion (item : MenuItem) : Suggestion :=
  ⟨item.span, item.value, item.description⟩

/-- A suggestion is safe at a place of a line if it replaces the text right in front of the place, from
a boundary on, and keeps the rest of the line. -/
structure Suggestion.IsSafe (suggestion : Suggestion) (place : Cursor) : Prop where
  stop : suggestion.span.stop = place.offset
  start_le : suggestion.span.start ≤ place.offset
  isBoundary : IsBoundary place.line suggestion.span.start
  applied : ∃ kept replaced, place.consumed = kept ++ replaced ∧
    suggestion.span.start = byteLength kept ∧
      (suggestion.apply (String.ofList place.line)).toList =
        kept ++ suggestion.text.toList ++ place.remaining

theorem Suggestion.isSafe_of_ends {suggestion : Suggestion} {place : Cursor}
    (ends : suggestion.span.Ends place.consumed) : suggestion.IsSafe place := by
  obtain ⟨stop, kept, replaced, consumed, start⟩ := ends
  have start_le := Nat.le_trans suggestion.span.ordered (Nat.le_of_eq stop)
  refine ⟨stop, start_le, ?_, kept, replaced, consumed, start, ?_⟩
  · refine ⟨kept, replaced ++ place.remaining, ?_, start⟩
    rw [Cursor.line, consumed, List.append_assoc]
  · rw [Suggestion.apply_eq, String.toList_ofList, String.toList_ofList, Cursor.line, consumed]
    exact applyTo_append start (consumed ▸ stop) place.remaining

namespace Registry

variable {ω : Type} {registry : Registry ω}

theorem completes_suggestions
    (operational : ∀ command ∈ registry.commands, command.root.IsOperational) (sender : Sender)
    (line : String) : (registry.suggestions sender line).Completes line.toList := by
  have labelled := Labelled.ofLine line
  cases separated : (Cursor.ofLine line).skipWord.atBlank with
  | false =>
      rw [suggestions_of_typing labelled separated, ← Suggester.ofLine_zero]
      exact Suggester.completes_suggestAll line _
  | true =>
      cases found : registry.find? (String.ofList (Cursor.ofLine line).word) with
      | none =>
          rw [suggestions_of_missing labelled separated found]
          exact Batch.completes_empty _ _
      | some command =>
          rw [suggestions_of_found labelled separated found]
          have member := mem_of_find?_eq_some found
          exact Command.completes_suggestions (operational command member) sender line

/-- Completions are safe to accept where the providers are operational: at any offset of a line all
suggestions, and all items of the menu, replace the text in front of the boundary that the offset is
moved down to. They lie in the span of their batch, and the text behind the boundary plays no part. -/
theorem suggestionsAt_isSafe
    (operational : ∀ command ∈ registry.commands, command.root.IsOperational) (sender : Sender)
    (line : String) (offset : Nat) :
    ∃ place : Cursor, place.line = line.toList ∧ MovesDown line.toList offset place.offset ∧
      (∀ suggestion ∈ (registry.suggestionsAt sender line offset).items,
        suggestion.IsSafe place ∧
          (registry.suggestionsAt sender line offset).span.Covers suggestion.span) ∧
      (∀ showsTooltips, ∀ item ∈ Shell.menu registry sender showsTooltips line offset,
        item.suggestion.IsSafe place ∧
          (registry.suggestionsAt sender line offset).span.Covers item.span) ∧
      ∀ behind : List Char,
        let other := String.ofList (place.consumed ++ behind)
        registry.suggestionsAt sender other place.offset =
            registry.suggestionsAt sender line offset ∧
          ∀ showsTooltips, Shell.menu registry sender showsTooltips other place.offset =
            Shell.menu registry sender showsTooltips line offset := by
  let place : Cursor := (Cursor.ofLine line).moveTo offset
  have before : (lineBefore line offset).toList = place.consumed := String.toList_ofList
  have completes := completes_suggestions operational sender (lineBefore line offset)
  rw [before] at completes
  have safe : ∀ suggestion ∈ (registry.suggestionsAt sender line offset).items,
      suggestion.IsSafe place ∧
        (registry.suggestionsAt sender line offset).span.Covers suggestion.span :=
    fun suggestion member =>
      ⟨Suggestion.isSafe_of_ends (completes.ends suggestion member),
        completes.covers suggestion member⟩
  have same (behind : List Char) :
      registry.suggestionsAt sender (String.ofList (place.consumed ++ behind)) place.offset =
        registry.suggestionsAt sender line offset := by
    have sameBefore : lineBefore (String.ofList (place.consumed ++ behind)) place.offset =
        lineBefore line offset := by
      rw [lineBefore, String.toList_ofList, Cursor.offset, cutDown_byteLength]
      rfl
    rw [suggestionsAt, sameBefore, suggestionsAt]
  refine ⟨place, Cursor.line_moveTo offset _, movesDown_cutDown offset line.toList, safe, ?_, ?_⟩
  · intro showsTooltips item member
    obtain ⟨suggestion, among, rfl⟩ := List.mem_map.mp member
    exact ⟨Suggestion.isSafe_of_ends (completes.ends suggestion among),
      completes.covers suggestion among⟩
  · intro behind other
    refine ⟨same behind, fun showsTooltips => ?_⟩
    rw [Shell.menu, same behind, Shell.menu]

/-- This suggests one word for the place and other words for a part of the label, too. -/
def detouring : Provider := fun _ suggester =>
  .merge [(suggester.suggest "home").batch, ((suggester.restartAt 1).suggest "o next door").batch]

def going : Command Unit where
  toDraft := .ofName "go" [(Node.argument "place" .word).suggesting detouring]
  sound := by decide

def travelling : Registry Unit := ⟨[going], [("go", 0)]⟩

/-- The offset lies inside a character, in front of which the line is completed. -/
theorem suggestionsAt_isSafe_detour :
    let sender : Sender := ⟨"console", [], false⟩
    let detour : Suggestion := ⟨⟨1, 4, by decide⟩, "o next door", none⟩
    (∀ command ∈ travelling.commands, command.root.IsOperational) ∧
      detour ∈ (travelling.suggestionsAt sender "go né wide" 5).items ∧
      (∃ place : Cursor, place.line = "go né wide".toList ∧
        MovesDown "go né wide".toList 5 place.offset ∧ detour.IsSafe place) ∧
      detour.apply "go né wide" = "go next dooré wide" := by
  intro sender detour
  have operational : ∀ command ∈ travelling.commands, command.root.IsOperational := by
    intro command member
    obtain rfl := List.mem_singleton.mp member
    refine .node (fun _ provided => nomatch provided) fun child below => ?_
    obtain rfl := List.mem_singleton.mp below
    refine .node (fun provider provided => ?_) (fun _ below => nomatch below)
    obtain rfl : detouring = provider := Option.some.inj provided
    intro context line offset
    refine .merge fun batch member => ?_
    rcases List.mem_cons.mp member with rfl | other
    · exact .batch (.offer .origin "home" none)
    · obtain rfl := List.mem_singleton.mp other
      exact .batch (.offer (.restartAt .origin 1) "o next door" none)
  have suggested : detour ∈ (travelling.suggestionsAt sender "go né wide" 5).items := by
    decide +kernel
  obtain ⟨place, line_eq, moved, safe, _⟩ :=
    suggestionsAt_isSafe operational sender "go né wide" 5
  exact ⟨operational, suggested, ⟨place, line_eq, moved, (safe detour suggested).1⟩, by decide⟩

end Registry

end CommandShell
