/-
This file says where cursors can stand: at the places of their line, where no character of its UTF-8
form is cut in two. Whatever is read at a place is the part of the line up to another place that is
not in front of it, and an offset is moved down to the last place that is not behind it.
-/

import CommandShell.Command.Completion
import CommandShell.Proofs.Boundary
import CommandShell.Proofs.Reading
import Mathlib.Order.Bounds.Defs

namespace CommandShell

open Argument Text

namespace Cursor

/-! ### What can be done with a cursor -/

/-- Readers look at what stands at a cursor, or read on from there. -/
inductive Reader where
  | peek
  | char
  | skip
  | blanks
  | word
  | quotation
  | phrase
  | remainder
  | value (kind : Kind)

namespace Reader

/-- This is where a reader leaves the cursor, whether it succeeds or fails. -/
def left (cursor : Cursor) : Reader → Cursor
  | .peek => cursor
  | .char | .skip => cursor.skip
  | .blanks => cursor.skipBlanks
  | .word => cursor.skipWord
  | .quotation => cursor.readQuotation.2
  | .phrase => cursor.readPhrase.2
  | .remainder => cursor.skipRemaining
  | .value kind => (kind.decode cursor).2

/-- These readers hand out a text as it stands in the line. -/
def passage? (cursor : Cursor) : Reader → Option (List Char)
  | .char => cursor.peek?.map ([·])
  | .word => some cursor.word
  | .remainder => some cursor.remaining
  | _ => none

end Reader

inductive Operation where
  | read (reader : Reader)
  | moveTo (offset : Nat)

def Operation.perform (cursor : Cursor) : Operation → Cursor
  | .read reader => reader.left cursor
  | .moveTo offset => cursor.moveTo offset

/-- This performs operations one after the other. -/
def after (operations : List Operation) (cursor : Cursor) : Cursor :=
  operations.foldl Operation.perform cursor

/-! ### Places of a line -/

variable {line : String} {cursor : Cursor} {place next : line.Pos}

/-- A cursor stands at a place of a line, which is cut there into what has been read and what
remains. -/
structure StandsAt (cursor : Cursor) (place : line.Pos) : Prop where
  offset_eq : cursor.offset = place.offset.byteIdx
  offset_le : cursor.offset ≤ line.utf8ByteSize
  parts_eq : String.ofList cursor.consumed ++ String.ofList cursor.remaining = line
  consumed_eq : (line.sliceTo place).copy = String.ofList cursor.consumed
  remaining_eq : (line.sliceFrom place).copy = String.ofList cursor.remaining

theorem standsAt_of_splits
    (splits : place.Splits (String.ofList cursor.consumed) (String.ofList cursor.remaining)) :
    cursor.StandsAt place where
  offset_eq := by
    rw [offset, byteLength_eq_utf8ByteSize, splits.offset_eq_rawEndPos]
    rfl
  offset_le := by
    rw [splits.eq_append, String.utf8ByteSize_append, offset, byteLength_eq_utf8ByteSize]
    omega
  parts_eq := splits.eq_append.symm
  consumed_eq := String.copy_sliceTo_eq_iff_exists_splits.mpr ⟨_, splits⟩
  remaining_eq := String.copy_sliceFrom_eq_iff_exists_splits.mpr ⟨_, splits⟩

/-- A cursor that has lost nothing of the line stands at one of its places. -/
theorem exists_standsAt (line_eq : cursor.line = line.toList) :
    ∃ place : line.Pos, cursor.StandsAt place := by
  have valid : (String.Pos.Raw.mk cursor.offset).IsValid line :=
    isBoundary_iff_isValid.mp ⟨_, _, line_eq.symm, rfl⟩
  have parts : line = String.ofList cursor.consumed ++ String.ofList cursor.remaining := by
    rw [← String.ofList_append, ← Cursor.line, line_eq, String.ofList_toList]
  have length := congrArg String.Pos.Raw.mk (byteLength_eq_utf8ByteSize cursor.consumed)
  exact ⟨⟨_, valid⟩, standsAt_of_splits ⟨parts, length⟩⟩

/-- The characters that are read from one place to another are the slice between them. -/
theorem StandsAt.slice_eq {count : Nat} (stands : cursor.StandsAt place)
    (arrives : (cursor.advance count).StandsAt next) : ∃ onward : place ≤ next,
      (line.slice place next onward).copy = String.ofList (cursor.remaining.take count) := by
  have onward : place ≤ next := by
    rw [String.Pos.le_iff, String.Pos.Raw.le_iff, ← stands.offset_eq, ← arrives.offset_eq]
    exact cursor.offset_le_advance count
  have start : cursor.offset = (String.ofList cursor.consumed).toByteArray.size + 0 := by
    rw [offset, byteLength_eq_utf8ByteSize, String.size_toByteArray, Nat.add_zero]
  have stop : (cursor.advance count).offset = (String.ofList cursor.consumed).toByteArray.size +
      (String.ofList (cursor.remaining.take count)).toByteArray.size := by
    rw [offset, advance, byteLength_append, byteLength_eq_utf8ByteSize,
      byteLength_eq_utf8ByteSize, String.size_toByteArray, String.size_toByteArray]
  have parts := stands.parts_eq
  rw [← List.take_append_drop count cursor.remaining, String.ofList_append] at parts
  refine ⟨onward, ?_⟩
  -- The bytes of the line are those of the part in front, of the slice and of the part behind.
  rw [← String.toByteArray_inj, String.toByteArray_copy_slice, ← stands.offset_eq,
    ← arrives.offset_eq, start, stop, ← parts, String.toByteArray_append,
    String.toByteArray_append, ByteArray.extract_append_size_add,
    ByteArray.extract_append_eq_left rfl]

/-! ### Reading on -/

/-- A reader reads a number of characters, and a text that it hands out is just these. -/
theorem Reader.exists_count (reader : Reader) (cursor : Cursor) :
    ∃ count, reader.left cursor = cursor.advance count ∧
      ∀ passage ∈ reader.passage? cursor, passage = cursor.remaining.take count := by
  cases reader with
  | peek => exact ⟨0, by simp [left, advance], by simp [passage?]⟩
  | char =>
      refine ⟨1, rfl, ?_⟩
      unfold passage? peek?
      cases cursor.remaining <;> simp
  | skip => exact ⟨1, rfl, by simp [passage?]⟩
  | blanks => exact ⟨_, rfl, by simp [passage?]⟩
  | word =>
      refine ⟨_, rfl, ?_⟩
      intro passage handed
      obtain rfl := Option.some.inj handed
      exact List.prefix_iff_eq_take.mp (List.takeWhile_prefix _)
  | quotation =>
      obtain ⟨count, reads⟩ := cursor.reaches_readQuotation
      exact ⟨count, reads, by simp [passage?]⟩
  | phrase =>
      obtain ⟨count, reads⟩ := cursor.reaches_readPhrase
      exact ⟨count, reads, by simp [passage?]⟩
  | remainder =>
      refine ⟨_, rfl, ?_⟩
      intro passage handed
      obtain rfl := Option.some.inj handed
      exact List.take_length.symm
  | value kind =>
      obtain ⟨count, reads⟩ := kind.reaches_decode cursor
      exact ⟨count, reads, by simp [passage?]⟩

/-- Characters can be read one by one, so that a cursor could stop behind each of them. -/
theorem advance_eq_after (count : Nat) (cursor : Cursor) :
    cursor.advance count = cursor.after (List.replicate count (.read .char)) := by
  induction count generalizing cursor with
  | zero => simp [advance, after]
  | succ count inductionHypothesis =>
      rw [Nat.add_comm, ← advance_advance, inductionHypothesis, Nat.add_comm, List.replicate_succ]
      rfl

theorem line_perform (operation : Operation) (cursor : Cursor) :
    (operation.perform cursor).line = cursor.line := by
  cases operation with
  | read reader =>
      obtain ⟨count, reads, _⟩ := reader.exists_count cursor
      rw [Operation.perform, reads, line_advance]
  | moveTo offset => exact line_moveTo offset cursor

/-- No operation loses anything of the line. -/
theorem line_after (operations : List Operation) (cursor : Cursor) :
    (cursor.after operations).line = cursor.line := by
  induction operations generalizing cursor with
  | nil => rfl
  | cons operation rest inductionHypothesis =>
      rw [after, List.foldl_cons, ← after, inductionHypothesis, line_perform]

/-! ### Moving to an offset -/

/-- The place is the one that stepping back, byte by byte, from the offset finds. -/
theorem moveTo_standsAt (line_eq : cursor.line = line.toList) (offset : Nat) :
    (cursor.moveTo offset).StandsAt (line.posLE ⟨min offset line.utf8ByteSize⟩) := by
  obtain ⟨place, stands⟩ := exists_standsAt ((line_moveTo offset cursor).trans line_eq)
  have lands : byteLength (cutDown offset line.toList).1 = place.offset.byteIdx := by
    rw [← stands.offset_eq, moveTo, line_eq, Cursor.offset]
  have moves := movesDown_cutDown offset line.toList
  rw [lands] at moves
  have found : line.posLE ⟨min offset line.utf8ByteSize⟩ = place := by
    rw [String.posLE_eq_iff]
    constructor
    · have within := stands.offset_le
      rw [stands.offset_eq] at within
      exact Nat.le_min.mpr ⟨moves.le, within⟩
    · intro other before
      exact moves.greatest _ (isBoundary_iff_isValid.mpr other.isValid) (Nat.le_min.mp before).1
  rwa [found]

example : ((ofLine "añb").moveTo 2).offset = 1 := by decide

/-- Whatever is done with a cursor, it stands at a place of its line. From there each reader reads
character by character, fails or succeeds at a place that is not in front of the first, and hands
out slices of the line. Any offset is moved down to the last place that is not behind it, by the
cursor, where a line is cut and where suggestions start. -/
theorem after_staysWithin (line : String) (operations : List Operation) :
    let cursor := (ofLine line).after operations
    (∃ place : line.Pos, cursor.StandsAt place ∧
      ∀ reader : Reader, ∃ (next : line.Pos) (onward : place ≤ next),
        (reader.left cursor).StandsAt next ∧
        (∃ count, reader.left cursor = cursor.after (List.replicate count (.read .char))) ∧
        ∀ passage ∈ reader.passage? cursor,
          (line.slice place next onward).copy = String.ofList passage) ∧
    ∀ offset : Nat,
      let target := line.posLE ⟨min offset line.utf8ByteSize⟩
      IsGreatest {other : line.Pos | other.offset.byteIdx ≤ min offset line.utf8ByteSize} target ∧
      (cursor.moveTo offset).StandsAt target ∧
      lineBefore line offset = (line.sliceTo target).copy ∧
      (Suggester.ofLine line offset).anchor = target.offset.byteIdx ∧
      String.ofList (Suggester.ofLine line offset).typed = (line.sliceFrom target).copy := by
  intro cursor
  have line_eq : cursor.line = line.toList := line_after operations (ofLine line)
  constructor
  · obtain ⟨place, stands⟩ := exists_standsAt line_eq
    refine ⟨place, stands, ?_⟩
    intro reader
    obtain ⟨count, reads, handed_eq⟩ := reader.exists_count cursor
    obtain ⟨next, arrives⟩ := exists_standsAt ((line_advance count cursor).trans line_eq)
    obtain ⟨onward, slice_eq⟩ := stands.slice_eq arrives
    refine ⟨next, onward, reads ▸ arrives, ⟨count, reads.trans (advance_eq_after count cursor)⟩, ?_⟩
    intro passage handed
    rw [handed_eq passage handed, slice_eq]
  · intro offset target
    have greatest : IsGreatest {other : line.Pos |
        other.offset.byteIdx ≤ min offset line.utf8ByteSize} target :=
      ⟨String.offset_posLE_le, fun other before => String.le_posLE_iff.mpr before⟩
    -- A line is cut as a cursor at its start is moved.
    have cutAtTarget : ((ofLine line).moveTo offset).StandsAt target := moveTo_standsAt rfl offset
    exact ⟨greatest, moveTo_standsAt line_eq offset, cutAtTarget.consumed_eq.symm,
      cutAtTarget.offset_eq, cutAtTarget.remaining_eq.symm⟩

/-- A phrase fails in front of a letter of two bytes that must not be escaped. The rest can be read
as a word, and no cursor can be moved into the letter. -/
theorem after_staysWithin_misquoted :
    let line := "é \"a\\ü\""
    let cursor := (ofLine line).after [.read .word, .read .blanks, .read .phrase]
    cursor.offset = 6 ∧ ['ü', '\x22'] ∈ Reader.word.passage? cursor ∧
      (∃ (place next : line.Pos) (onward : place ≤ next), cursor.StandsAt place ∧
        (line.slice place next onward).copy = "ü\"") ∧
      (cursor.moveTo 7).StandsAt (line.posLE ⟨7⟩) := by
  intro line cursor
  have handed : ['ü', '\x22'] ∈ Reader.word.passage? cursor := by decide
  obtain ⟨⟨place, stands, reads⟩, moves⟩ :=
    after_staysWithin line [.read .word, .read .blanks, .read .phrase]
  obtain ⟨next, onward, _, _, slice_eq⟩ := reads .word
  obtain ⟨_, moved, _⟩ := moves 7
  exact ⟨by decide, handed, ⟨place, next, onward, stands, slice_eq _ handed⟩, moved⟩

end Cursor

end CommandShell
