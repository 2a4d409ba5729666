/-
This file says how reading moves a cursor: forward over a text, which it leaves as it is. A word
ends before the first blank, so that what stands behind the blank does not matter.
-/

import CommandShell.Cursor

namespace CommandShell.Cursor

open Text

/-- A cursor reaches the places in its line that do not lie before it. -/
def Reaches (cursor place : Cursor) : Prop :=
  ∃ count, place = cursor.advance count

theorem reaches_advance (cursor : Cursor) (count : Nat) : cursor.Reaches (cursor.advance count) :=
  ⟨count, rfl⟩

theorem advance_append (consumed text rest : List Char) :
    (mk consumed (text ++ rest)).advance text.length = ⟨consumed ++ text, rest⟩ := by
  simp [advance]

theorem advance_advance (cursor : Cursor) (first second : Nat) :
    (cursor.advance first).advance second = cursor.advance (first + second) := by
  simp [advance, List.take_add]

namespace Reaches

variable {cursor middle place : Cursor}

theorem refl (cursor : Cursor) : cursor.Reaches cursor :=
  ⟨0, by simp [advance]⟩

theorem trans (first : cursor.Reaches middle) (second : middle.Reaches place) :
    cursor.Reaches place := by
  obtain ⟨before, rfl⟩ := first
  obtain ⟨behind, rfl⟩ := second
  exact ⟨before + behind, advance_advance cursor before behind⟩

theorem line_eq (reaches : cursor.Reaches place) : place.line = cursor.line := by
  obtain ⟨count, rfl⟩ := reaches
  exact line_advance count cursor

/-- The text between a cursor and a place that it reaches has been read. -/
theorem exists_text (reaches : cursor.Reaches place) :
    ∃ text, cursor = ⟨cursor.consumed, text ++ place.remaining⟩ ∧
      place = ⟨cursor.consumed ++ text, place.remaining⟩ := by
  obtain ⟨count, rfl⟩ := reaches
  refine ⟨cursor.remaining.take count, ?_, rfl⟩
  rw [remaining_advance, List.take_append_drop]

/-- A cursor that has moved has read something. -/
theorem offset_lt (reaches : cursor.Reaches place) (moved : place ≠ cursor) :
    cursor.offset < place.offset := by
  obtain ⟨text, start, arrives⟩ := reaches.exists_text
  cases text with
  | nil =>
      rw [List.nil_append] at start
      rw [List.append_nil, ← start] at arrives
      exact absurd arrives moved
  | cons char text =>
      have positive := char.utf8Size_pos
      rw [arrives, offset, offset, byteLength_append, byteLength_cons]
      omega

/-- Nothing stands behind the end of a line. -/
theorem atEnd (reaches : cursor.Reaches place) (ended : cursor.atEnd) : place.atEnd := by
  obtain ⟨count, rfl⟩ := reaches
  have nothing : cursor.remaining = [] := List.isEmpty_iff.mp ended
  rw [Cursor.atEnd, remaining_advance, nothing, List.drop_nil, List.isEmpty_nil]

end Reaches

/-- Going back to the offset of a cursor restores it. -/
theorem moveTo_offset {cursor left : Cursor} (sameLine : left.line = cursor.line) :
    left.moveTo cursor.offset = cursor := by
  rw [moveTo, sameLine, line, offset, cutDown_byteLength]

theorem atBlank_iff (cursor : Cursor) :
    cursor.atBlank ↔ ∃ blank rest, cursor.remaining = blank :: rest ∧ isBlank blank := by
  unfold atBlank peek?
  cases cursor.remaining with
  | nil => simp
  | cons char rest => simp

theorem atBoundary_iff (cursor : Cursor) : cursor.atBoundary ↔ cursor.atEnd ∨ cursor.atBlank := by
  simp [atBoundary]

theorem atBoundary_eq_false_iff (cursor : Cursor) :
    cursor.atBoundary = false ↔ ∃ char, cursor.peek? = some char ∧ isSolid char := by
  unfold atBoundary atEnd atBlank peek?
  cases cursor.remaining with
  | nil => simp
  | cons char rest => simp [isSolid]

theorem atEnd_iff (cursor : Cursor) : cursor.atEnd ↔ cursor.remaining = [] := by
  simp [atEnd]

/-! ### Blanks -/

theorem reaches_skipBlanks (cursor : Cursor) : cursor.Reaches cursor.skipBlanks :=
  cursor.reaches_advance _

theorem skipBlanks_eq (cursor : Cursor) :
    cursor.skipBlanks =
      ⟨cursor.consumed ++ cursor.remaining.takeWhile isBlank,
        cursor.remaining.dropWhile isBlank⟩ := by
  have advanced := advance_append cursor.consumed (cursor.remaining.takeWhile isBlank)
    (cursor.remaining.dropWhile isBlank)
  rw [List.takeWhile_append_dropWhile] at advanced
  exact advanced

theorem atBlank_skipBlanks (cursor : Cursor) : cursor.skipBlanks.atBlank = false := by
  have stops := List.head?_dropWhile_not isBlank cursor.remaining
  rw [atBlank, peek?, skipBlanks_eq]
  cases first : (cursor.remaining.dropWhile isBlank).head? with
  | none => rfl
  | some char =>
      rw [first] at stops
      simpa using stops

theorem atBlank_of_solid {consumed text : List Char} (solid : ∀ char ∈ text, isSolid char) :
    (mk consumed text).atBlank = false := by
  cases text with
  | nil => rfl
  | cons char text => exact (Bool.not_eq_true' _).mp (solid char List.mem_cons_self)

theorem atEnd_skipBlanks {cursor : Cursor} (ended : cursor.atEnd) : cursor.skipBlanks.atEnd := by
  rw [atEnd_iff] at ended ⊢
  simp [skipBlanks_eq, ended]

/-- Skipping blanks reads all blanks up to a text that starts with none. -/
theorem skipBlanks_append {consumed blanks rest : List Char}
    (blank : ∀ char ∈ blanks, isBlank char) (stops : (mk consumed rest).atBlank = false) :
    (mk consumed (blanks ++ rest)).skipBlanks = ⟨consumed ++ blanks, rest⟩ := by
  rw [skipBlanks_eq, List.takeWhile_append_of_pos blank, List.dropWhile_append_of_pos blank]
  cases rest with
  | nil => simp
  | cons char rest =>
      have solid : isBlank char = false := stops
      simp [solid]

theorem exists_blanks (cursor : Cursor) :
    ∃ blanks, (∀ char ∈ blanks, isBlank char) ∧
      cursor = ⟨cursor.consumed, blanks ++ cursor.skipBlanks.remaining⟩ ∧
        cursor.skipBlanks = ⟨cursor.consumed ++ blanks, cursor.skipBlanks.remaining⟩ := by
  refine ⟨cursor.remaining.takeWhile isBlank, List.all_eq_true.mp List.all_takeWhile, ?_, ?_⟩
  · rw [skipBlanks_eq, List.takeWhile_append_dropWhile]
  · rw [skipBlanks_eq]

/-- Between a blank and a place that is not before one there is at least the blank. -/
theorem Reaches.exists_blank {cursor place : Cursor} (reaches : cursor.Reaches place)
    (goesOn : cursor.atBlank) (stops : place.atBlank = false) :
    ∃ blank text, isBlank blank ∧
      cursor = ⟨cursor.consumed, (blank :: text) ++ place.remaining⟩ ∧
        place = ⟨cursor.consumed ++ blank :: text, place.remaining⟩ := by
  obtain ⟨text, start, arrives⟩ := reaches.exists_text
  cases text with
  | nil =>
      rw [List.nil_append] at start
      rw [List.append_nil, ← start] at arrives
      rw [arrives, goesOn] at stops
      cases stops
  | cons blank text =>
      have separates : isBlank blank := by
        rw [start] at goesOn
        exact goesOn
      exact ⟨blank, text, separates, start, arrives⟩

/-- Blanks are skipped whatever stands behind them. -/
theorem skipBlanks_congr {consumed blanks rest other : List Char}
    (skipped : (mk consumed (blanks ++ rest)).skipBlanks = ⟨consumed ++ blanks, rest⟩)
    (stops : (mk consumed other).atBlank = false) :
    (mk consumed (blanks ++ other)).skipBlanks = ⟨consumed ++ blanks, other⟩ := by
  refine skipBlanks_append ?_ stops
  have same : blanks = (blanks ++ rest).takeWhile isBlank := by
    rw [skipBlanks_eq] at skipped
    exact (List.append_cancel_left (congrArg Cursor.consumed skipped)).symm
  rw [same]
  exact List.all_eq_true.mp List.all_takeWhile

/-! ### Texts -/

theorem leave_append (consumed text rest : List Char) :
    (mk consumed (text ++ rest)).leave rest = ⟨consumed ++ text, rest⟩ := by
  rw [leave, List.length_append, Nat.add_sub_cancel_right, advance_append]

theorem reaches_skipRemaining (cursor : Cursor) : cursor.Reaches cursor.skipRemaining :=
  cursor.reaches_advance _

theorem remaining_skipRemaining (cursor : Cursor) : cursor.skipRemaining.remaining = [] := by
  simp [skipRemaining]

theorem reaches_readQuotation (cursor : Cursor) : cursor.Reaches cursor.readQuotation.2 := by
  unfold readQuotation
  split
  · exact .refl cursor
  · split
    · dsimp only
      split <;> exact cursor.reaches_advance _
    · exact .refl cursor

theorem reaches_readPhrase (cursor : Cursor) : cursor.Reaches cursor.readPhrase.2 := by
  unfold readPhrase
  split
  · exact cursor.reaches_readQuotation
  · exact cursor.reaches_advance _

/-! ### Words -/

theorem reaches_skipWord (cursor : Cursor) : cursor.Reaches cursor.skipWord :=
  cursor.reaches_advance _

theorem solid_of_mem_word {cursor : Cursor} {char : Char} (member : char ∈ cursor.word) :
    isSolid char :=
  List.all_eq_true.mp List.all_takeWhile char member

theorem skipWord_eq (cursor : Cursor) :
    cursor.skipWord =
      ⟨cursor.consumed ++ cursor.word, cursor.remaining.dropWhile isSolid⟩ := by
  have advanced := advance_append cursor.consumed (cursor.remaining.takeWhile isSolid)
    (cursor.remaining.dropWhile isSolid)
  rw [List.takeWhile_append_dropWhile] at advanced
  exact advanced

theorem atBoundary_skipWord (cursor : Cursor) : cursor.skipWord.atBoundary := by
  have stops := List.head?_dropWhile_not isSolid cursor.remaining
  rw [skipWord_eq, atBoundary, atEnd, atBlank, peek?]
  cases behind : cursor.remaining.dropWhile isSolid with
  | nil => rfl
  | cons char rest =>
      rw [behind] at stops
      simpa [isSolid] using stops

/-- A word reaches up to a boundary. -/
theorem word_append {consumed text rest : List Char} (solid : ∀ char ∈ text, isSolid char)
    (stops : (mk consumed rest).atBoundary) : (mk consumed (text ++ rest)).word = text := by
  rw [word, List.takeWhile_append_of_pos solid]
  cases rest with
  | nil => simp
  | cons char rest =>
      have blank : isBlank char := by simpa [atBoundary, atEnd, atBlank, peek?] using stops
      simp [isSolid, blank]

theorem skipWord_append {consumed text rest : List Char} (solid : ∀ char ∈ text, isSolid char)
    (stops : (mk consumed rest).atBoundary) :
    (mk consumed (text ++ rest)).skipWord = ⟨consumed ++ text, rest⟩ := by
  rw [skipWord, word_append solid stops, advance_append]

/-- A word at the end of a line is read to the end. -/
theorem skipWord_of_isWord (consumed : List Char) {word : List Char} (isWord : isWord word) :
    (mk consumed word).word = word ∧ (mk consumed word).skipWord = ⟨consumed ++ word, []⟩ := by
  have solid := solid_of_isWord isWord
  have stops : ∀ consumed, (mk consumed []).atBoundary := fun _ => rfl
  have whole := word_append solid (stops consumed)
  have left := skipWord_append solid (stops consumed)
  rw [List.append_nil] at whole left
  exact ⟨whole, left⟩

/-- A word is read in the same way before all boundaries, wherever it stands. -/
theorem skipWord_congr {consumed text rest otherConsumed other : List Char}
    (left : (mk consumed (text ++ rest)).skipWord = ⟨consumed ++ text, rest⟩)
    (stops : (mk otherConsumed other).atBoundary) :
    (mk otherConsumed (text ++ other)).word = (mk consumed (text ++ rest)).word ∧
      (mk otherConsumed (text ++ other)).skipWord = ⟨otherConsumed ++ text, other⟩ := by
  have word : (mk consumed (text ++ rest)).word = text := by
    rw [skipWord_eq] at left
    exact List.append_cancel_left (congrArg Cursor.consumed left)
  have solid : ∀ char ∈ text, isSolid char := by
    intro char member
    exact solid_of_mem_word (word ▸ member)
  exact ⟨(word_append solid stops).trans word.symm, skipWord_append solid stops⟩

end CommandShell.Cursor
