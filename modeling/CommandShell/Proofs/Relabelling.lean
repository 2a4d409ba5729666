/-
This file shows that the labels of a command are interchangeable. Behind its label a line is read in
the same way whichever label it has, so that answers differ in lines and in offsets only.
-/

import CommandShell.Proofs.Discovery
import CommandShell.Proofs.Displacement
import Mathlib.Data.List.Forall2

namespace CommandShell

open Argument Text

/-! ### Suggestions in static trees -/

namespace Segment

variable {segment : Segment}

/-- What a static segment suggests does not depend on the text in front, nor on the context. -/
theorem IsStatic.suggestions_displace (static : segment.IsStatic) (context other : Context)
    (front : List Char) (suggester : Suggester) :
    segment.suggestions other (suggester.displace front) =
      (segment.suggestions context suggester).displace (byteLength front) := by
  obtain ⟨values, suggests⟩ := static.exists_values
  rw [suggests, suggests]
  show Suggester.batch _ = (Suggester.batch _).displace (byteLength front)
  rw [Suggester.foldl_offer_displace, Suggester.batch_displace]

end Segment

theorem Node.merge_suggestions_displace {ω : Type} {children : List (Node ω)}
    (nonempty : children ≠ []) (static : ∀ child ∈ children, child.segment.IsStatic)
    (context other : Context) (front : List Char) (suggester : Suggester) :
    Batch.merge (children.map fun child =>
        child.segment.suggestions other (suggester.displace front)) =
      (Batch.merge (children.map fun child =>
        child.segment.suggestions context suggester)).displace (byteLength front) := by
  rw [← Batch.merge_map_displace _ (mt List.map_eq_nil_iff.mp nonempty), List.map_map]
  apply congrArg Batch.merge
  apply List.map_congr_left
  intro child member
  exact (static child member).suggestions_displace context other front suggester

/-! ### Answers that are apart -/

/-- The second of two offsets is greater by the distance, or less if it is negative. -/
def Text.Apart (distance : Int) (first second : Nat) : Prop :=
  (second : Int) - first = distance

theorem Text.apart_add (first second offset : Nat) :
    Apart (second - first) (first + offset) (second + offset) := by
  unfold Apart
  omega

structure Argument.DecodeError.Apart (distance : Int) (first second : DecodeError) : Prop where
  fault : first.fault = second.fault
  position : Text.Apart distance first.position second.position

/-- Errors that are apart differ only in their lines and in the offsets in them. -/
inductive DispatchError.Apart (distance : Int) (line other : String) :
    DispatchError → DispatchError → Prop where
  | unknownArgument {position otherPosition : Nat} {cause otherCause : Option DecodeError}
      (positions : Text.Apart distance position otherPosition)
      (causes : Option.Rel (DecodeError.Apart distance) cause otherCause) :
      Apart distance line other (.unknownArgument position line cause)
        (.unknownArgument otherPosition other otherCause)
  | incompleteCommand (command usage : String) :
      Apart distance line other (.incompleteCommand command usage)
        (.incompleteCommand command usage)
  | permissionDenied (command : String) :
      Apart distance line other (.permissionDenied command) (.permissionDenied command)

structure Span.Apart (distance : Int) (first second : Span) : Prop where
  start : Text.Apart distance first.start second.start
  stop : Text.Apart distance first.stop second.stop

structure Suggestion.Apart (distance : Int) (first second : Suggestion) : Prop where
  text : first.text = second.text
  tooltip : first.tooltip = second.tooltip
  span : first.span.Apart distance second.span

/-- Batches that are apart suggest the same in the same order. -/
structure Batch.Apart (distance : Int) (first second : Batch) : Prop where
  span : first.span.Apart distance second.span
  items : List.Forall₂ (Suggestion.Apart distance) first.items second.items

section

variable (count other : Nat)

theorem Span.apart_displace (span : Span) :
    (span.displace count).Apart (other - count) (span.displace other) :=
  ⟨Text.apart_add count other span.start, Text.apart_add count other span.stop⟩

theorem Batch.apart_displace (batch : Batch) :
    (batch.displace count).Apart (other - count) (batch.displace other) where
  span := batch.span.apart_displace count other
  items := by
    apply List.forall₂_map_left_iff.mpr
    apply List.forall₂_map_right_iff.mpr
    apply List.forall₂_same.mpr
    intro suggestion _
    exact ⟨rfl, rfl, suggestion.span.apart_displace count other⟩

theorem Argument.DecodeError.rel_displace (cause : Option DecodeError) :
    Option.Rel (DecodeError.Apart (other - count)) (cause.map (displace count))
      (cause.map (displace other)) := by
  cases cause with
  | none => exact .none
  | some error => exact .some ⟨rfl, Text.apart_add count other error.position⟩

end

/-! ### Labels -/

theorem Cursor.displace_ofLine (front : List Char) (line : String) :
    (ofLine line).displace front = ⟨front, line.toList⟩ := by
  simp [displace, ofLine, ofList]

namespace Command

variable {ω : Type} {command : Command ω} {sender : Sender} {label otherLabel rest : String}

/-- Two lines with different labels are answered alike if they call the same executor with the same
arguments, or fail with errors that are apart. -/
inductive AnswersAlike (command : Command ω) (sender : Sender) (distance : Int)
    (line label other otherLabel : String) : Prop where
  | call {executor : Executor ω} {arguments : Arguments}
      (calls : command.resolve sender line =
        .ok ⟨executor, ⟨sender, line, label, arguments, command.heading⟩⟩)
      (otherCalls : command.resolve sender other =
        .ok ⟨executor, ⟨sender, other, otherLabel, arguments, command.heading⟩⟩) :
      AnswersAlike command sender distance line label other otherLabel
  | failure {error otherError : DispatchError}
      (apart : error.Apart distance line other otherError)
      (fails : command.execute sender line = .error error)
      (otherFails : command.execute sender other = .error otherError) :
      AnswersAlike command sender distance line label other otherLabel

theorem execute_of_resolve_eq_error {line : String} {error : DispatchError}
    (resolved : command.resolve sender line = .error error) :
    command.execute sender line = .error error := by
  rw [execute, resolved]
  rfl

theorem labelled_append (known : label ∈ command.labels)
    (boundary : (Cursor.ofLine rest).atBoundary) :
    Labelled (label ++ rest) label ((Cursor.ofLine rest).displace label.toList) := by
  rw [Cursor.displace_ofLine]
  exact .of_append (solid_of_isWord (command.isWord_of_mem_labels known)) String.toList_append
    boundary

/-- Behind all labels a line takes the same route. -/
theorem exists_follows_behind (acceptable : Cursor → Bool)
    (blind : ∀ front cursor, acceptable (Cursor.displace front cursor) = acceptable cursor)
    (usable : ¬ command.Rejects sender) (boundary : (Cursor.ofLine rest).atBoundary) :
    ∃ route : Route ω, ∀ label ∈ command.labels,
      command.Admits sender (label ++ rest) label ((Cursor.ofLine rest).displace label.toList) ∧
        command.root.Follows sender acceptable ((Cursor.ofLine rest).displace label.toList)
          (route.displace label.toList) := by
  obtain ⟨route, follows⟩ := Node.exists_follows sender acceptable command.root (Cursor.ofLine rest)
  refine ⟨route, fun label known => ⟨⟨labelled_append known boundary, known, usable⟩, ?_⟩⟩
  exact follows.displace (blind label.toList)

theorem answers_alike (known : label ∈ command.labels) (otherKnown : otherLabel ∈ command.labels)
    (boundary : (Cursor.ofLine rest).atBoundary) :
    command.AnswersAlike sender (byteLength otherLabel.toList - byteLength label.toList)
      (label ++ rest) label (otherLabel ++ rest) otherLabel := by
  by_cases rejected : command.Rejects sender
  · have resolved := resolve_of_rejects (labelled_append known boundary) known rejected
    have otherResolved :=
      resolve_of_rejects (labelled_append otherKnown boundary) otherKnown rejected
    exact .failure (.permissionDenied command.name) (execute_of_resolve_eq_error resolved)
      (execute_of_resolve_eq_error otherResolved)
  obtain ⟨route, behind⟩ :=
    exists_follows_behind Cursor.atBoundary (fun _ _ => rfl) rejected boundary
  obtain ⟨admits, follows⟩ := behind label known
  obtain ⟨otherAdmits, otherFollows⟩ := behind otherLabel otherKnown
  have resolved := resolve_of_admits admits follows
  have otherResolved := resolve_of_admits otherAdmits otherFollows
  simp only [Route.ending_displace, Route.place_displace, Route.executor?_displace,
    Route.arguments_displace, Cursor.offset_displace] at resolved otherResolved
  cases ending : route.ending with
  | stuck cause =>
      rw [ending] at resolved otherResolved
      refine .failure ?_ (execute_of_resolve_eq_error resolved)
        (execute_of_resolve_eq_error otherResolved)
      exact .unknownArgument (Text.apart_add _ _ _) (DecodeError.rel_displace _ _ cause)
  | exhausted =>
      rw [ending] at resolved otherResolved
      cases called : route.executor?.or command.root.executor with
      | none =>
          rw [called] at resolved otherResolved
          exact .failure (.incompleteCommand command.name (command.usage sender))
            (execute_of_resolve_eq_error resolved) (execute_of_resolve_eq_error otherResolved)
      | some executor =>
          rw [called] at resolved otherResolved
          exact .call resolved otherResolved

/-- In a static tree the same is suggested behind all labels. -/
theorem exists_suggestions_behind (static : command.root.IsStatic) (sender : Sender)
    (separated : (Cursor.ofLine rest).atBlank) :
    ∃ batch : Batch, ∀ label ∈ command.labels,
      command.suggestions sender (label ++ rest) = batch.displace (byteLength label.toList) := by
  have boundary := (Cursor.atBoundary_iff _).mpr (.inr separated)
  by_cases rejected : command.Rejects sender
  · refine ⟨.empty (byteLength rest.toList), fun label _ => ?_⟩
    rw [suggestions_of_rejects rejected, String.toList_append, byteLength_append]
    rfl
  obtain ⟨route, behind⟩ :=
    exists_follows_behind Cursor.atBlank (fun _ _ => rfl) rejected boundary
  cases children : (route.nodes.getLastD command.root).visibleChildren sender with
  | nil =>
      refine ⟨.empty route.place.offset, fun label known => ?_⟩
      obtain ⟨admits, follows⟩ := behind label known
      rw [suggestions_of_admits admits separated follows, Route.nodes_displace, children,
        Route.place_displace, Cursor.offset_displace]
      rfl
  | cons first others =>
      let context : Context := ⟨sender, rest, "", route.arguments, command.heading⟩
      refine ⟨.merge ((first :: others).map fun child =>
        child.segment.suggestions context (Suggester.behind route.place)), fun label known => ?_⟩
      obtain ⟨admits, follows⟩ := behind label known
      have last : (route.nodes.getLastD command.root).IsStatic := by
        have inherited := follows.last_of_inherited static fun _ _ => Node.IsStatic.of_mem_children
        rwa [Route.nodes_displace] at inherited
      have staticChildren : ∀ child ∈ first :: others, child.segment.IsStatic := by
        intro child member
        rw [← children] at member
        exact (last.of_mem_children (List.mem_filter.mp member).1).segment
      rw [suggestions_of_admits admits separated follows, Route.nodes_displace, children,
        Route.place_displace, Suggester.behind_displace]
      exact Node.merge_suggestions_displace (List.cons_ne_nil first others) staticChildren context _
        label.toList (Suggester.behind route.place)

/-- The labels of a command are interchangeable. Two lines that differ in their labels only call the
same executor with the same arguments, or fail with the same error. If a blank follows the labels
and the tree is static, the same is suggested for both. Offsets are apart by as much as the labels
differ in length. -/
theorem labels_interchangeable (known : label ∈ command.labels)
    (otherKnown : otherLabel ∈ command.labels) (boundary : (Cursor.ofLine rest).atBoundary) :
    let distance : Int := byteLength otherLabel.toList - byteLength label.toList
    command.AnswersAlike sender distance (label ++ rest) label (otherLabel ++ rest) otherLabel ∧
      ((Cursor.ofLine rest).atBlank → command.root.IsStatic →
        (command.suggestions sender (label ++ rest)).Apart distance
          (command.suggestions sender (otherLabel ++ rest))) := by
  refine ⟨answers_alike known otherKnown boundary, fun separated static => ?_⟩
  obtain ⟨batch, behind⟩ := exists_suggestions_behind static sender separated
  rw [behind label known, behind otherLabel otherKnown]
  exact batch.apart_displace _ _

/-- Flying is turned on or off. -/
def flying : Command Unit where
  toDraft := (Draft.ofName "flying" [
    (Node.argument "state" .boolean).executing fun _ => ()]).withAlias "fly"
  sound := by decide

theorem flying_interchangeable :
    let guest : Sender := ⟨"guest", [], false⟩
    flying.execute guest "flying high" =
        .error (.unknownArgument 7 "flying high" (some ⟨.invalidBoolean "high", 7⟩)) ∧
      flying.execute guest "fly high" =
        .error (.unknownArgument 4 "fly high" (some ⟨.invalidBoolean "high", 4⟩)) ∧
      (flying.suggestions guest "flying t").Apart (-3) (flying.suggestions guest "fly t") := by
  intro guest
  have known : "flying" ∈ flying.labels := by decide
  have otherKnown : "fly" ∈ flying.labels := by decide
  have static : flying.root.IsStatic := by
    refine .node (fun _ provided => nomatch provided) fun child member => ?_
    obtain rfl := List.mem_singleton.mp member
    exact .node (fun _ provided => nomatch provided) (fun _ below => nomatch below)
  have admits : flying.Admits guest "flying high" "flying" ⟨"flying".toList, " high".toList⟩ :=
    ⟨Labelled.iff_eq.mpr ⟨by decide, by decide⟩, known, not_rejects_iff.mpr rfl⟩
  have refused : ∀ child ∈ flying.root.children, child.Refuses guest Cursor.atBoundary
      (Cursor.mk "flying".toList " high".toList).skipBlanks := by
    intro child member
    obtain rfl := List.mem_singleton.mp member
    exact Node.refuses_of_rejected
      (by decide : _ = Match.rejected (some ⟨.invalidBoolean "high", 7⟩))
  have resolved : flying.resolve guest "flying high" =
      .error (.unknownArgument 7 "flying high" (some ⟨.invalidBoolean "high", 7⟩)) :=
    resolve_of_admits admits (.stuck (by decide) refused)
  have executed := execute_of_resolve_eq_error resolved
  obtain ⟨alike, _⟩ :=
    @labels_interchangeable Unit flying guest "flying" "fly" " high" known otherKnown rfl
  obtain ⟨_, suggests⟩ :=
    @labels_interchangeable Unit flying guest "flying" "fly" " t" known otherKnown rfl
  refine ⟨executed, ?_, suggests rfl static⟩
  cases alike with
  | call calls => cases resolved.symm.trans calls
  | failure apart fails otherFails =>
      cases executed.symm.trans fails
      cases apart with
      | @unknownArgument _ position _ _ positions causes =>
          cases causes with
          | @some _ error apart =>
              obtain ⟨fault, place⟩ := error
              obtain ⟨rfl, places⟩ := apart
              have lengths : (byteLength "fly".toList : Int) - byteLength "flying".toList = -3 := by
                decide
              rw [lengths] at positions places
              unfold Text.Apart at positions places
              obtain rfl : position = 4 := by omega
              obtain rfl : place = 4 := by
                dsimp only at places
                omega
              exact otherFails

end Command

end CommandShell
