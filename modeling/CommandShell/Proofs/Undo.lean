/-
This file shows that applying a suggestion can be undone. A suggestion replaces the part of a line
between two boundaries, and another suggestion puts this part back.
-/

import CommandShell.Proofs.Boundary
import CommandShell.Proofs.Suggestion

namespace CommandShell

open Text

/-- Between two boundaries of a text lies a part of it. -/
theorem Text.exists_between {text : List Char} {first second : Nat}
    (isFirst : IsBoundary text first) (isSecond : IsBoundary text second)
    (ordered : first ≤ second) :
    ∃ before between after, text = before ++ between ++ after ∧
      first = byteLength before ∧ second = byteLength (before ++ between) := by
  obtain ⟨before, behind, fromFirst, rfl⟩ := isFirst
  obtain ⟨front, after, fromSecond, rfl⟩ := isSecond
  rcases List.append_eq_append_iff.mp (fromFirst.symm.trans fromSecond) with
    ⟨between, rfl, _⟩ | ⟨extra, rfl, _⟩
  · exact ⟨before, between, after, fromSecond, rfl, rfl⟩
  · -- The second boundary is not before the first, so that nothing can lie between them.
    cases extra with
    | nil => exact ⟨front, [], after, by simpa using fromSecond, by simp, by simp⟩
    | cons char rest =>
        have positive := char.utf8Size_pos
        simp only [byteLength_append, byteLength_cons] at ordered
        omega

namespace Span

variable {span : Span} {line before covered after : List Char}

theorem exists_divides
    (start : IsBoundary line (min span.start (byteLength line)))
    (stop : IsBoundary line (min span.stop (byteLength line))) :
    ∃ before covered after, span.Divides line before covered after := by
  have ordered : min span.start (byteLength line) ≤ min span.stop (byteLength line) := by
    have := span.ordered
    omega
  obtain ⟨before, covered, after, line_eq, atStart, atStop⟩ := exists_between start stop ordered
  exact ⟨before, covered, after, line_eq, atStart, atStop⟩

theorem text_of_divides (divides : span.Divides line before covered after) :
    span.text line = covered := by
  obtain ⟨line_eq, start, stop⟩ := divides
  have startWithin : min span.start (byteLength (before ++ covered)) = byteLength before := by
    have := span.ordered
    omega
  have length : byteLength (before ++ covered) - byteLength before = byteLength covered := by
    rw [byteLength_append, Nat.add_sub_cancel_left]
  have atStart := cutAt?_byteLength before (covered ++ after)
  have atStop := cutAt?_byteLength covered after
  rw [← List.append_assoc, ← line_eq] at atStart
  simp only [text, startWithin, stop, slice?, atStart, length, atStop, Option.bind_eq_bind,
    Option.bind_some, Option.pure_def, Option.getD_some]

end Span

namespace Suggestion

/-- This suggests for a changed line what the suggestion has replaced there. -/
def undo (suggestion : Suggestion) (line : String) : Suggestion :=
  let start := min suggestion.span.start (byteLength line.toList)
  { span := ⟨start, start + byteLength suggestion.text.toList, Nat.le_add_right _ _⟩
    text := String.ofList (suggestion.span.text line.toList)
    tooltip := none }

variable {suggestion : Suggestion} {line : String} {before replaced after : List Char}

theorem toList_apply (divides : suggestion.span.Divides line.toList before replaced after) :
    (suggestion.apply line).toList = before ++ suggestion.text.toList ++ after := by
  rw [apply_eq, applyTo_of_divides divides, String.toList_ofList]

/-- In the changed line the text stands where the replaced part stood before. -/
theorem divides_undo (divides : suggestion.span.Divides line.toList before replaced after) :
    (suggestion.undo line).span.Divides (suggestion.apply line).toList before
      suggestion.text.toList after := by
  constructor
  · exact toList_apply divides
  · simp only [undo, divides.start, toList_apply divides, byteLength_append]
    omega
  · simp only [undo, divides.start, toList_apply divides, byteLength_append]
    omega

/-- A suggestion replaces the part of a line between two boundaries, which may lie past its end, and
nothing else. The text stands there now, and putting the replaced part back gives the line again. -/
theorem apply_undo
    (start : IsBoundary line.toList (min suggestion.span.start (byteLength line.toList)))
    (stop : IsBoundary line.toList (min suggestion.span.stop (byteLength line.toList))) :
    (∃ before after,
      suggestion.span.Divides line.toList before (suggestion.span.text line.toList) after ∧
      (suggestion.apply line).toList = before ++ suggestion.text.toList ++ after) ∧
    suggestion.apply line = String.ofList (suggestion.applyTo line.toList) ∧
    (suggestion.undo line).span.text (suggestion.apply line).toList = suggestion.text.toList ∧
    (suggestion.undo line).apply (suggestion.apply line) = line := by
  obtain ⟨before, replaced, after, divides⟩ := Span.exists_divides start stop
  have covered : suggestion.span.text line.toList = replaced := Span.text_of_divides divides
  have back := divides_undo divides
  refine ⟨⟨before, after, ?_, toList_apply divides⟩, apply_eq suggestion line,
    Span.text_of_divides back, ?_⟩
  · rwa [covered]
  · have back_text : (suggestion.undo line).text.toList = replaced := by
      rw [← covered]
      exact String.toList_ofList
    have restored := toList_apply back
    rw [back_text, ← divides.line_eq] at restored
    exact String.toList_inj.mp restored

/-- The span ends past the end of the line, and there are letters of two bytes on both sides. -/
theorem apply_undo_past_end :
    let suggestion : Suggestion := ⟨⟨3, 99, by decide⟩, "ñandú", some "a bird"⟩
    let line := "é ü!"
    IsBoundary line.toList (min suggestion.span.start (byteLength line.toList)) ∧
      IsBoundary line.toList (min suggestion.span.stop (byteLength line.toList)) ∧
      suggestion.apply line = "é ñandú" ∧ suggestion.undo line = ⟨⟨3, 10, by decide⟩, "ü!", none⟩ ∧
      (suggestion.undo line).apply (suggestion.apply line) = line := by
  intro suggestion line
  have start : IsBoundary line.toList (min suggestion.span.start (byteLength line.toList)) :=
    ⟨"é ".toList, "ü!".toList, by decide, by decide⟩
  have stop : IsBoundary line.toList (min suggestion.span.stop (byteLength line.toList)) :=
    ⟨"é ü!".toList, [], by decide, by decide⟩
  exact ⟨start, stop, by decide +kernel, by decide +kernel, (apply_undo start stop).2.2.2⟩

end Suggestion

end CommandShell
