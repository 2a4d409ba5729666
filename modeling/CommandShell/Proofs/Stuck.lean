/-
This file says where a line is stuck that no child of a node takes on: at a character that is no
blank, right behind a blank. The cause lies there, or further on in a quotation, and the message
shows the end of the text in front of it.
-/

import CommandShell.Failure
import CommandShell.Proofs.Answer
import CommandShell.Proofs.Boundary
import CommandShell.Proofs.Decimal
import CommandShell.Proofs.Grammar

namespace CommandShell

open Argument Text

/-! ### Faults in arguments -/

namespace Argument

/-- These are the faults inside of quotations; all others are told of whole words. -/
def FaultKind.isQuoted : FaultKind → Bool
  | .unterminatedQuote | .invalidEscape => true
  | _ => false

/-- A fault lies where its argument starts, or behind it in the same line if it is one of a
quotation. -/
structure DecodeError.LiesFrom (error : DecodeError) (cursor : Cursor) : Prop where
  reached : ∃ place, cursor.Reaches place ∧ error.position = place.offset
  atStart : error.fault.kind.isQuoted = false → error.position = cursor.offset
  notExpected : error.fault.kind ≠ .expectedQuote

variable {cursor left : Cursor} {error : DecodeError} {kind : Kind}

theorem DecodeError.liesFrom_of_atStart (atStart : error.position = cursor.offset)
    (notExpected : error.fault.kind ≠ .expectedQuote) : error.LiesFrom cursor :=
  ⟨⟨cursor, .refl cursor, atStart⟩, fun _ => atStart, notExpected⟩

theorem Kind.DecodesNumbers.liesFrom {α : Type} {IsNumeral : List Char → Prop}
    {Denotes : List Char → α → Prop} {Allowed : α → Prop} {toValue : α → Value}
    (decodes : kind.DecodesNumbers IsNumeral Denotes Allowed toValue)
    (failure : kind.decode cursor = (.error error, left)) : error.LiesFrom cursor := by
  obtain ⟨-, atStart, faulty⟩ := decodes.failure cursor error left failure
  refine DecodeError.liesFrom_of_atStart atStart ?_
  rcases faulty with faulty | faulty <;> simp [faulty]

/-- A phrase that starts without a quote can always be read. -/
theorem liesFrom_of_readPhrase (failure : cursor.readPhrase = (.error error, left)) :
    error.LiesFrom cursor := by
  have reached := cursor.reaches_readPhrase
  rw [failure] at reached
  unfold Cursor.readPhrase at failure
  split at failure
  · rename_i opened
    obtain ⟨quote, starts, opened⟩ := (Option.any_eq_true _ _).mp opened
    rcases (Cursor.readQuotation_eq_error_iff opened starts).mp failure with
      ⟨char, _, rfl⟩ | ⟨_, _, _, rfl⟩
    · exact ⟨⟨left, reached, rfl⟩, nofun, nofun⟩
    · exact ⟨⟨left, reached, rfl⟩, nofun, nofun⟩
  · cases failure

theorem liesFrom_of_readBoolean {fault : Fault} (fails : readBoolean cursor.word = .error fault) :
    (DecodeError.mk fault cursor.offset).LiesFrom cursor := by
  refine DecodeError.liesFrom_of_atStart rfl ?_
  simp only [readBoolean] at fails
  split at fails
  · cases fails
  · split at fails <;> cases fails
    nofun

theorem liesFrom_of_decode (failure : kind.decode cursor = (.error error, left)) :
    error.LiesFrom cursor := by
  cases kind with
  | word | remainder => cases failure
  | phrase =>
      unfold Kind.decode Kind.read at failure
      cases read : cursor.readPhrase with
      | mk result stopped =>
          cases result with
          | ok text => simp [read] at failure
          | error found =>
              simp only [read, Prod.mk.injEq, Except.error.injEq] at failure
              obtain ⟨rfl, -⟩ := failure
              exact liesFrom_of_readPhrase read
  | integer least greatest => exact (Kind.decodesNumbers_integer least greatest).liesFrom failure
  | long least greatest => exact (Kind.decodesNumbers_long least greatest).liesFrom failure
  | float least greatest =>
      have decodes : (Kind.float least greatest).DecodesNumbers _ _ _ _ :=
        Kind.decodesNumbers_decimal Binary.moderate_binary32 nofun nofun fun _ => rfl
      exact decodes.liesFrom failure
  | double least greatest =>
      have decodes : (Kind.double least greatest).DecodesNumbers _ _ _ _ :=
        Kind.decodesNumbers_decimal Binary.moderate_binary64 nofun nofun fun _ => rfl
      exact decodes.liesFrom failure
  | boolean =>
      cases read : readBoolean cursor.word with
      | ok value =>
          have reads : Kind.boolean.ofWord cursor.word = .ok (.boolean value) := by
            rw [Kind.ofWord, read]
            rfl
          rw [Kind.decode_of_ofWord (by decide) (by decide) reads] at failure
          cases failure
      | error fault =>
          have fails : Kind.boolean.ofWord cursor.word = .error fault := by
            rw [Kind.ofWord, read]
            rfl
          rw [Kind.decode_of_ofWord_error (by decide) (by decide) fails] at failure
          cases failure
          exact liesFrom_of_readBoolean read

end Argument

/-! ### The place where a line is stuck -/

namespace Cursor

theorem offset_le_line (cursor : Cursor) : cursor.offset ≤ byteLength cursor.line := by
  rw [offset, line, byteLength_append]
  omega

theorem Reaches.offset_le {cursor place : Cursor} (reaches : cursor.Reaches place) :
    cursor.offset ≤ place.offset := by
  obtain ⟨count, rfl⟩ := reaches
  exact offset_le_advance count cursor

/-- What is read next starts here: there is a blank in front of the place and none behind it. -/
structure StartsWord (place : Cursor) : Prop where
  behindBlank : ∃ lead blank, place.consumed = lead ++ [blank] ∧ isBlank blank
  atSolid : ∃ char rest, place.remaining = char :: rest ∧ isSolid char

theorem startsWord_skipBlanks {cursor : Cursor} (boundary : cursor.atBoundary)
    (more : ¬ cursor.skipBlanks.atEnd) : cursor.skipBlanks.StartsWord := by
  have separated : cursor.atBlank := by
    rcases (atBoundary_iff cursor).mp boundary with ended | separated
    · exact absurd (atEnd_skipBlanks ended) more
    · exact separated
  obtain ⟨blanks, blank, start, arrives⟩ := cursor.exists_blanks
  constructor
  · rcases List.eq_nil_or_concat blanks with rfl | ⟨lead, last, rfl⟩
    · -- Nothing has been skipped, but the blank is still there.
      have still : cursor.skipBlanks.atBlank := by
        rw [arrives, List.append_nil, ← List.nil_append cursor.skipBlanks.remaining, ← start]
        exact separated
      rw [atBlank_skipBlanks] at still
      cases still
    · refine ⟨cursor.consumed ++ lead, last, ?_, blank last (by simp)⟩
      rw [arrives]
      simp
  · have stops := cursor.atBlank_skipBlanks
    rw [atEnd_iff] at more
    obtain ⟨char, rest, remaining⟩ := List.exists_cons_of_ne_nil more
    refine ⟨char, rest, remaining, ?_⟩
    rw [atBlank, peek?, remaining] at stops
    simpa [isSolid] using stops

theorem StartsWord.offset_lt_line {place : Cursor} (starts : place.StartsWord) :
    place.offset < byteLength place.line := by
  obtain ⟨char, rest, remaining, _⟩ := starts.atSolid
  have positive := char.utf8Size_pos
  rw [offset, line, remaining, byteLength_append, byteLength_cons]
  omega

/-- A text without blanks ends before the word that starts behind it. -/
theorem StartsWord.lt_offset {cursor place : Cursor} (starts : place.StartsWord)
    (reaches : cursor.Reaches place) (solid : ∀ char ∈ cursor.consumed, isSolid char) :
    cursor.offset < place.offset := by
  obtain ⟨lead, blank, consumed, separates⟩ := starts.behindBlank
  obtain ⟨text, _, arrives⟩ := reaches.exists_text
  rw [arrives] at consumed
  cases text with
  | nil =>
      rw [List.append_nil] at consumed
      have last := solid blank (consumed ▸ List.mem_append_right _ List.mem_cons_self)
      exact absurd last (not_isSolid_of_isBlank separates)
  | cons char text =>
      have positive := char.utf8Size_pos
      rw [arrives, offset, offset, byteLength_append, byteLength_cons]
      omega

end Cursor

namespace Node

variable {ω : Type} {sender : Sender} {node : Node ω} {cursor : Cursor} {route : Route ω}
  {cause : Option DecodeError}

theorem liesFrom_of_mem_lastFault {children : List (Node ω)} {error : DecodeError}
    (found : lastFault sender cursor children = some error) : error.LiesFrom cursor := by
  obtain ⟨child, _, fault⟩ := List.mem_filterMap.mp (List.mem_of_getLast? found)
  unfold Segment.fault? at fault
  split at fault
  · cases fault
  · rename_i kind _ _
    cases decoded : kind.decode cursor with
    | mk result left =>
        cases result with
        | ok value => simp [decoded] at fault
        | error other =>
            simp only [decoded, Option.some.injEq] at fault
            subst fault
            exact liesFrom_of_decode decoded

/-- Each part of a route ends at a boundary, so that blanks are skipped before the line is stuck. -/
theorem Follows.startsWord_place (follows : node.Follows sender Cursor.atBoundary cursor route)
    (boundary : cursor.atBoundary) (stuck : route.ending = .stuck cause) :
    route.place.StartsWord ∧ ∀ error ∈ cause, error.LiesFrom route.place := by
  induction follows with
  | exhausted => cases stuck
  | stuck more _ =>
      cases stuck
      exact ⟨Cursor.startsWord_skipBlanks boundary more, fun _ => liesFrom_of_mem_lastFault⟩
  | step _ _ _ taken _ inductionHypothesis => exact inductionHypothesis taken.accepted stuck

end Node

/-! ### What is shown of the line -/

/-- The message shows the last characters in front of the place, behind dots if these are not
all. -/
theorem pointAt?_eq {line : String} {place : Cursor} (line_eq : place.line = line.toList) :
    ∃ hidden shown, place.consumed = hidden ++ shown ∧
      shown.length = min 10 place.consumed.length ∧
        pointAt? line place.offset =
          some ((if 10 < place.consumed.length then "..." else "") ++ String.ofList shown ++
            "<--[HERE]") := by
  refine ⟨place.consumed.take (place.consumed.length - 10),
    place.consumed.drop (place.consumed.length - 10), (List.take_append_drop _ _).symm, ?_, ?_⟩
  · rw [List.length_drop]
    omega
  · have within : min place.offset (byteLength line.toList) = byteLength place.consumed :=
      Nat.min_eq_left (line_eq ▸ place.offset_le_line)
    have atPlace : cutAt? (byteLength place.consumed) line.toList =
        some (place.consumed, place.remaining) :=
      line_eq ▸ cutAt?_byteLength place.consumed place.remaining
    simp only [pointAt?, within, atPlace, shownBefore, Nat.sub_pos_iff_lt, Option.bind_eq_bind,
      Option.bind_some, Option.pure_def]
    split <;> simp [String.append_assoc]

/-- The message tells of the cause, if there is one, and of the place. -/
theorem DispatchError.message?_unknownArgument (position : Nat) (line : String)
    (cause : Option DecodeError) : (unknownArgument position line cause).message? =
      (pointAt? line position).map
        ((cause.elim "Incorrect argument for command" fun error => error.fault.message) ++
          " at position " ++ toString position ++ ": " ++ ·) := by
  cases cause <;> rfl

namespace Command

variable {ω : Type} {command : Command ω} {sender : Sender} {line : String}

/-- A line whose next part no child takes on is stuck where this part starts: at a character that is
no blank, behind the label and right behind a blank. The cause lies there, too, unless a quotation
is at fault further on. The message names the cause and shows the last ten characters in front of
the place, with dots in place of those before them. -/
theorem unknownArgument_startsWord {position : Nat} {input : String} {cause : Option DecodeError}
    (failed : command.execute sender line = .error (.unknownArgument position input cause)) :
    input = line ∧ ∃ label behind, ∃ place : Cursor, Labelled line label behind ∧
      place.line = line.toList ∧ position = place.offset ∧ IsBoundary line.toList position ∧
      byteLength label.toList < position ∧ position < byteLength line.toList ∧ place.StartsWord ∧
      (∀ error ∈ cause, position ≤ error.position ∧ error.position ≤ byteLength line.toList ∧
        (error.fault.kind.isQuoted = false → error.position = position) ∧
        error.fault.kind ≠ .expectedQuote) ∧
      ∃ hidden shown, place.consumed = hidden ++ shown ∧
        shown.length = min 10 place.consumed.length ∧
          (DispatchError.unknownArgument position input cause).message? =
            some ((cause.elim "Incorrect argument for command" fun error => error.fault.message) ++
              " at position " ++ toString position ++ ": " ++
              ((if 10 < place.consumed.length then "..." else "") ++ String.ofList shown ++
                "<--[HERE]")) := by
  have resolved : command.resolve sender line = .error (.unknownArgument position input cause) := by
    cases resolved : command.resolve sender line with
    | ok call => simp [execute, resolved, Except.map] at failed
    | error error => simpa [execute, resolved, Except.map] using failed
  cases ((command.resolve_eq_iff_answers sender line).1 _).mp resolved with
  | @unknownArgument label behind route _ admits follows stuck =>
      obtain ⟨labelled, -, -⟩ := admits
      have line_eq : route.place.line = line.toList :=
        follows.reaches.line_eq.trans labelled.line_eq
      obtain ⟨startsWord, causes⟩ := follows.startsWord_place labelled.atBoundary stuck
      obtain ⟨hidden, shown, split, length, pointed⟩ := pointAt?_eq line_eq
      have isBoundary := isBoundary_append route.place.consumed route.place.remaining
      refine ⟨rfl, label, behind, route.place, labelled, line_eq, rfl, line_eq ▸ isBoundary, ?_, ?_,
        startsWord, fun error member => ?_, hidden, shown, split, length, ?_⟩
      · have read : behind.offset = byteLength label.toList := congrArg byteLength labelled.read
        rw [← read]
        exact startsWord.lt_offset follows.reaches (labelled.read ▸ labelled.solid)
      · rw [← line_eq]
        exact startsWord.offset_lt_line
      · obtain ⟨⟨place, reached, lies⟩, atStart, notExpected⟩ := causes error member
        have within := place.offset_le_line
        rw [reached.line_eq, line_eq, ← lies] at within
        exact ⟨lies ▸ reached.offset_le, within, atStart, notExpected⟩
      · rw [DispatchError.message?_unknownArgument, pointed, Option.map_some]

/-- Someone is rewarded for something, both of which may be quoted. -/
def reward : Command Unit where
  toDraft := .ofName "reward" [
    (Node.argument "name" .phrase).followedBy [Node.argument "reason" .phrase]]
  sound := by decide

/-- The cause of an open quotation lies at the end of the line. -/
theorem unknownArgument_startsWord_open :
    let sender : Sender := ⟨"console", [], false⟩
    let line := "reward Zoë\u00a0'on time"
    let cause : DecodeError := ⟨.unterminatedQuote, 21⟩
    let error := DispatchError.unknownArgument 13 line (some cause)
    reward.execute sender line = .error error ∧ IsBoundary line.toList 13 ∧ 13 ≤ cause.position ∧
      error.message? = some "Unclosed quoted string at position 13: ...eward Zoë\u00a0<--[HERE]" := by
  intro sender line cause error
  have failed : reward.execute sender line = .error error := by decide +kernel
  obtain ⟨-, -, -, place, -, -, -, isBoundary, -, -, -, causes, -⟩ :=
    unknownArgument_startsWord failed
  exact ⟨failed, isBoundary, (causes cause rfl).1, by decide +kernel⟩

end Command

end CommandShell
