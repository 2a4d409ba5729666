/-
This file says which offsets of a text are boundaries. Cutting a text moves an offset down to the
next one.
-/

import CommandShell.Text.Offset

namespace CommandShell.Text

/-- No character of a text lies across a boundary. -/
def IsBoundary (text : List Char) (offset : Nat) : Prop :=
  ∃ before after, text = before ++ after ∧ offset = byteLength before

/-- Boundaries are the offsets at which no byte of the UTF-8 form continues a character. -/
theorem isBoundary_iff_isValid {line : String} {offset : Nat} :
    IsBoundary line.toList offset ↔ (String.Pos.Raw.mk offset).IsValid line := by
  rw [String.Pos.Raw.isValid_iff_exists_append]
  constructor
  · intro boundary
    obtain ⟨before, after, split, rfl⟩ := boundary
    have parts : line = String.ofList before ++ String.ofList after := by
      rw [← String.ofList_append, ← split, String.ofList_toList]
    exact ⟨_, _, parts, congrArg String.Pos.Raw.mk (byteLength_eq_utf8ByteSize before)⟩
  · intro valid
    obtain ⟨before, after, rfl, stop⟩ := valid
    have length : byteLength before.toList = before.utf8ByteSize := by
      rw [byteLength_eq_utf8ByteSize, String.ofList_toList]
    exact ⟨_, _, String.toList_append, (congrArg String.Pos.Raw.byteIdx stop).trans length.symm⟩

/-- An offset is moved down to the greatest boundary that is not behind it. -/
structure MovesDown (text : List Char) (offset boundary : Nat) : Prop where
  isBoundary : IsBoundary text boundary
  le : boundary ≤ offset
  greatest : ∀ other, IsBoundary text other → other ≤ offset → other ≤ boundary

theorem isBoundary_append (before after : List Char) :
    IsBoundary (before ++ after) (byteLength before) :=
  ⟨before, after, rfl, rfl⟩

/-- Stepping back from an offset leads to the greatest boundary that is not behind it. -/
theorem movesDown_cutDown (offset : Nat) (text : List Char) :
    MovesDown text offset (byteLength (cutDown offset text).1) := by
  rw [cutDown_eq]
  refine ⟨⟨_, _, (cut_append offset text).symm, rfl⟩, byteLength_cut_le offset text, ?_⟩
  rintro _ ⟨before, after, split, rfl⟩ within
  have parts := (cut_append offset text).trans split
  rcases List.append_eq_append_iff.mp parts with ⟨middle, longer, behind⟩ | ⟨middle, shorter, _⟩
  · cases middle with
    | nil => simp [longer]
    | cons char middle =>
        -- The next character ends behind the offset, so that no boundary lies between.
        have exceeds := lt_of_cut_eq_cons behind
        simp only [longer, byteLength_append, byteLength_cons] at within
        omega
  · simp [shorter]

end CommandShell.Text
