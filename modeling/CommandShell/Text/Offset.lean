/-
This file measures texts in bytes of their UTF-8 form. An offset is a number of bytes from the start
of a text; it is a boundary when no character lies across it.
-/

namespace CommandShell.Text

def byteLength : List Char → Nat
  | [] => 0
  | char :: rest => char.utf8Size + byteLength rest

@[simp]
theorem byteLength_nil : byteLength [] = 0 := rfl

@[simp]
theorem byteLength_cons (char : Char) (rest : List Char) :
    byteLength (char :: rest) = char.utf8Size + byteLength rest := rfl

@[simp]
theorem byteLength_append (left right : List Char) :
    byteLength (left ++ right) = byteLength left + byteLength right := by
  induction left with
  | nil => simp
  | cons char rest inductionHypothesis => simp [inductionHypothesis, Nat.add_assoc]

theorem byteLength_eq_utf8ByteSize (text : List Char) :
    byteLength text = (String.ofList text).utf8ByteSize := by
  induction text with
  | nil => rfl
  | cons char rest inductionHypothesis =>
      rw [byteLength_cons, inductionHypothesis, String.ofList_cons, String.utf8ByteSize_append,
        String.utf8ByteSize_singleton]

/-- This cuts a text behind the characters that fit into a number of bytes. -/
def cut (offset : Nat) : List Char → List Char × List Char
  | [] => ([], [])
  | char :: rest =>
      if char.utf8Size ≤ offset then
        let parts := cut (offset - char.utf8Size) rest
        (char :: parts.1, parts.2)
      else
        ([], char :: rest)

theorem cut_append (offset : Nat) (text : List Char) :
    (cut offset text).1 ++ (cut offset text).2 = text := by
  induction text generalizing offset with
  | nil => rfl
  | cons char rest inductionHypothesis =>
      unfold cut
      split
      · simp [inductionHypothesis]
      · rfl

theorem byteLength_cut_le (offset : Nat) (text : List Char) :
    byteLength (cut offset text).1 ≤ offset := by
  induction text generalizing offset with
  | nil => simp [cut]
  | cons char rest inductionHypothesis =>
      unfold cut
      split
      · have bound := inductionHypothesis (offset - char.utf8Size)
        simp only [byteLength_cons]
        omega
      · simp

/-- The next boundary lies behind the offset. -/
theorem lt_of_cut_eq_cons {offset : Nat} {text : List Char} {char : Char} {rest : List Char}
    (cutRest : (cut offset text).2 = char :: rest) :
    offset < byteLength (cut offset text).1 + char.utf8Size := by
  induction text generalizing offset with
  | nil => simp [cut] at cutRest
  | cons head tail inductionHypothesis =>
      unfold cut at cutRest ⊢
      split at cutRest
      · rename_i fits
        have bound := inductionHypothesis cutRest
        simp only [fits, ↓reduceIte, byteLength_cons]
        omega
      · rename_i exceeds
        injection cutRest with sameHead
        subst sameHead
        simp only [exceeds, ↓reduceIte, byteLength_nil]
        omega

/-- A boundary is where the text is cut. -/
theorem cut_byteLength (before after : List Char) :
    cut (byteLength before) (before ++ after) = (before, after) := by
  induction before with
  | nil =>
      cases after with
      | nil => rfl
      | cons char rest => simp [cut, Nat.not_le.mpr char.utf8Size_pos]
  | cons char rest inductionHypothesis => simp [cut, inductionHypothesis]

/-- This cuts a text at an offset, if the offset is one of its boundaries. -/
def cutAt? (offset : Nat) (text : List Char) : Option (List Char × List Char) :=
  let parts := cut offset text
  if byteLength parts.1 = offset then some parts else none

theorem cutAt?_byteLength (before after : List Char) :
    cutAt? (byteLength before) (before ++ after) = some (before, after) := by
  simp [cutAt?, cut_byteLength]

/-- An offset that the text reaches is a boundary, or the offsets in front of it are tried, byte by
byte. -/
def stepBack (text : List Char) : Nat → Nat
  | 0 => 0
  | offset + 1 => if (cutAt? (offset + 1) text).isSome then offset + 1 else stepBack text offset

/-- This cuts a text at the last boundary that is not behind the offset. -/
def cutDown (offset : Nat) (text : List Char) : List Char × List Char :=
  cut (stepBack text (min offset (byteLength text))) text

/-- No boundary lies between the one at which a text is cut and the offset. -/
theorem cut_congr {first second : Nat} {text : List Char}
    (behind : byteLength (cut second text).1 ≤ first) (ordered : first ≤ second) :
    cut first text = cut second text := by
  induction text generalizing first second with
  | nil => rfl
  | cons char rest inductionHypothesis =>
      unfold cut at behind ⊢
      split at behind
      · rename_i fits
        rw [byteLength_cons] at behind
        have fitsFirst : char.utf8Size ≤ first := by omega
        have same : cut (first - char.utf8Size) rest = cut (second - char.utf8Size) rest :=
          inductionHypothesis (by omega) (Nat.sub_le_sub_right ordered char.utf8Size)
        simp only [fits, fitsFirst, ↓reduceIte, same]
      · rename_i exceeds
        have exceedsFirst : ¬ char.utf8Size ≤ first := by omega
        simp only [exceeds, exceedsFirst, ↓reduceIte]

theorem byteLength_cut_le_length (offset : Nat) (text : List Char) :
    byteLength (cut offset text).1 ≤ byteLength text := by
  conv => rhs; rw [← cut_append offset text, byteLength_append]
  omega

/-- Stepping back finds the boundary at which the text is cut. -/
theorem stepBack_eq (text : List Char) (offset : Nat) :
    stepBack text offset = byteLength (cut offset text).1 := by
  induction offset with
  | zero => exact (Nat.le_zero.mp (byteLength_cut_le 0 text)).symm
  | succ offset inductionHypothesis =>
      unfold stepBack cutAt?
      by_cases isBoundary : byteLength (cut (offset + 1) text).1 = offset + 1
      · simp [isBoundary]
      · have bound := byteLength_cut_le (offset + 1) text
        have same : cut offset text = cut (offset + 1) text := cut_congr (by omega) (by omega)
        simp [isBoundary, inductionHypothesis, same]

/-- Cutting at the boundary that is found takes the characters that fit in front of the offset. -/
theorem cutDown_eq (offset : Nat) (text : List Char) : cutDown offset text = cut offset text := by
  rw [cutDown, stepBack_eq]
  have within : byteLength (cut offset text).1 ≤ min offset (byteLength text) :=
    Nat.le_min.mpr ⟨byteLength_cut_le offset text, byteLength_cut_le_length offset text⟩
  rw [cut_congr within (Nat.min_le_left _ _)]
  exact cut_congr (Nat.le_refl _) (byteLength_cut_le offset text)

theorem cutDown_append (offset : Nat) (text : List Char) :
    (cutDown offset text).1 ++ (cutDown offset text).2 = text := by
  rw [cutDown_eq, cut_append]

theorem cutDown_byteLength (before after : List Char) :
    cutDown (byteLength before) (before ++ after) = (before, after) := by
  rw [cutDown_eq, cut_byteLength]

/-- This is the part of a text between two boundaries. -/
def slice? (start stop : Nat) (text : List Char) : Option (List Char) := do
  let (_, tail) ← cutAt? start text
  let (middle, _) ← cutAt? (stop - start) tail
  return middle

end CommandShell.Text
