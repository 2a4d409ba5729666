/-
This file says which candidates stay accepted when less of them is typed. Letters are lowered one
by one, but a capital sigma depends on what stands around it: at the end of a word it has its own
small letter.
-/

import CommandShell.Proofs.Offer

namespace CommandShell

namespace Text

/-- The case rules look past all of these characters. -/
def IsIgnored (text : List Char) : Prop :=
  ∀ char ∈ text, caseIgnorable.contains char

theorem startsCased_of_ignored {text : List Char} (ignored : IsIgnored text) (rest : List Char) :
    startsCased (text ++ rest) = startsCased rest := by
  rw [startsCased, startsCased, List.dropWhile_append_of_pos ignored]

theorem startsCased_append {text : List Char} (seen : ¬ IsIgnored text) (rest : List Char) :
    startsCased (text ++ rest) = startsCased text := by
  induction text with
  | nil => exact absurd (fun char member => nomatch member) seen
  | cons char text inductionHypothesis =>
      by_cases ignored : caseIgnorable.contains char
      · have seen : ¬ IsIgnored text := fun below =>
          seen (List.forall_mem_cons.mpr ⟨ignored, below⟩)
        simpa [startsCased, ignored] using inductionHypothesis seen
      · simp [startsCased, ignored]

/-- These are the small letters of a character between two texts, the first one in reverse. -/
def lettersBetween (before : List Char) (char : Char) (rest : List Char) : List Char :=
  if char == '\u03a3' then
    if startsCased before && !startsCased rest then ['\u03c2'] else ['\u03c3']
  else
    lowercaseLetter char

theorem lowercaseAfter_cons (before : List Char) (char : Char) (rest : List Char) :
    lowercaseAfter before (char :: rest) =
      lettersBetween before char rest ++ lowercaseAfter (char :: before) rest := rfl

/-- A text ends in a capital sigma, up to characters that the case rules look past. This sigma ends
a word, but not if the rest follows. The first argument is the text before, in reverse. -/
def Reopens (before text rest : List Char) : Prop :=
  ∃ front tail, text = front ++ '\u03a3' :: tail ∧ IsIgnored tail ∧
    startsCased (front.reverse ++ before) ∧ startsCased rest

variable {before text rest : List Char} {char : Char}

theorem reopens_cons_iff :
    Reopens before (char :: text) rest ↔
      (char = '\u03a3' ∧ IsIgnored text ∧ startsCased before ∧ startsCased rest) ∨
        Reopens (char :: before) text rest := by
  constructor
  · rintro ⟨front, tail, split, ignored, cased, follows⟩
    cases front with
    | nil =>
        obtain ⟨rfl, rfl⟩ := List.cons.inj split
        exact .inl ⟨rfl, ignored, cased, follows⟩
    | cons first front =>
        obtain ⟨rfl, rfl⟩ := List.cons.inj split
        exact .inr ⟨front, tail, rfl, ignored, by simpa using cased, follows⟩
  · rintro (⟨rfl, ignored, cased, follows⟩ | ⟨front, tail, rfl, ignored, cased, follows⟩)
    · exact ⟨[], text, rfl, ignored, cased, follows⟩
    · exact ⟨char :: front, tail, rfl, ignored, by simpa using cased, follows⟩

/-- What follows a text changes the letters of a character before it only where it reopens a final
sigma. -/
theorem lettersBetween_append
    (settled : ¬ (char = '\u03a3' ∧ IsIgnored text ∧ startsCased before ∧ startsCased rest)) :
    lettersBetween before char (text ++ rest) = lettersBetween before char text := by
  unfold lettersBetween
  by_cases sigma : char = '\u03a3'
  -- A sigma looks ahead to the first character that is not looked past, which may be in the rest.
  · by_cases ignored : IsIgnored text
    · have nothing : startsCased text = startsCased [] := by
        simpa using startsCased_of_ignored ignored []
      rw [startsCased_of_ignored ignored, nothing]
      cases cased : startsCased before with
      | false => rfl
      | true =>
          have ends : startsCased rest = false := by
            simpa [sigma, ignored, cased] using settled
          rw [ends]
          rfl
    · rw [startsCased_append ignored]
  · simp [sigma]

theorem not_isPrefix_of_reopened (ignored : IsIgnored text) (cased : startsCased before)
    (follows : startsCased rest) (tail other : List Char) :
    ¬ lettersBetween before '\u03a3' text ++ tail <+:
      lettersBetween before '\u03a3' (text ++ rest) ++ other := by
  have nothing : startsCased text = startsCased [] := by
    simpa using startsCased_of_ignored ignored []
  have final : lettersBetween before '\u03a3' text = ['\u03c2'] := by
    rw [lettersBetween, nothing, cased]
    rfl
  have medial : lettersBetween before '\u03a3' (text ++ rest) = ['\u03c3'] := by
    rw [lettersBetween, startsCased_of_ignored ignored, cased, follows]
    rfl
  rw [final, medial, List.singleton_append, List.singleton_append, List.cons_prefix_cons]
  exact fun same => absurd same.1 (by decide)

/-- The small letters of a text start those of a longer one, unless the longer one reopens a sigma
at the end of the shorter. -/
theorem lowercaseAfter_isPrefix_iff (before text rest : List Char) :
    lowercaseAfter before text <+: lowercaseAfter before (text ++ rest) ↔
      ¬ Reopens before text rest := by
  induction text generalizing before with
  | nil => simp [lowercaseAfter, Reopens]
  | cons char text inductionHypothesis =>
      rw [List.cons_append, lowercaseAfter_cons, lowercaseAfter_cons, reopens_cons_iff, not_or]
      by_cases reopened :
          char = '\u03a3' ∧ IsIgnored text ∧ startsCased before ∧ startsCased rest
      · obtain ⟨rfl, ignored, cased, follows⟩ := reopened
        simp [not_isPrefix_of_reopened ignored cased follows, ignored, cased, follows]
      · rw [lettersBetween_append reopened, List.prefix_append_right_inj, inductionHypothesis]
        simp [reopened]

/-- Each character has as many small letters wherever it stands. -/
theorem length_lettersBetween (before text rest : List Char) (char : Char) :
    (lettersBetween before char text).length = (lettersBetween before char rest).length := by
  unfold lettersBetween
  split
  · split <;> split <;> rfl
  · rfl

theorem length_lowercaseAfter_le (before text rest : List Char) :
    (lowercaseAfter before text).length ≤ (lowercaseAfter before (text ++ rest)).length := by
  induction text generalizing before with
  | nil => exact Nat.zero_le _
  | cons char text inductionHypothesis =>
      rw [List.cons_append, lowercaseAfter_cons, lowercaseAfter_cons, List.length_append,
        List.length_append, length_lettersBetween before text (text ++ rest) char]
      exact Nat.add_le_add_left (inductionHypothesis (char :: before)) _

/-- What a candidate that continues a text does with a start of this text. -/
theorem continues_start_iff {start candidate : List Char}
    (continues : Continues (start ++ rest) candidate) :
    Continues start candidate ↔ ¬ Reopens [] start rest := by
  rw [← lowercaseAfter_isPrefix_iff]
  rcases continues with nothing | longer
  · obtain ⟨rfl, rfl⟩ := List.append_eq_nil_iff.mp nothing
    exact iff_of_true (.inl rfl) (List.prefix_refl _)
  constructor
  · rintro (rfl | shorter)
    · exact List.nil_prefix
    · exact List.prefix_of_prefix_length_le shorter longer (length_lowercaseAfter_le [] start rest)
  · exact fun settled => .inr (settled.trans longer)

end Text

namespace Suggester

/-- A candidate that is accepted for a typed text, or is the typed text itself, is accepted for each
start of it but those that end in a capital sigma that the rest reopens. -/
theorem accepts_start_iff {shorter : Suggester} {rest : List Char} {text : String}
    (longer : text.toList = shorter.typed ++ rest ∨
      ∃ suggester : Suggester, suggester.typed = shorter.typed ++ rest ∧ suggester.accepts text) :
    shorter.accepts text ↔ ¬ Text.Reopens [] shorter.typed rest := by
  rw [accepts_iff]
  refine Text.continues_start_iff ?_
  rcases longer with whole | ⟨suggester, typed, accepted⟩
  · rw [whole]
    exact .inr (List.prefix_refl _)
  · rwa [accepts_iff, typed] at accepted

/-- A name with two sigmas is not found while only the first of them is typed. -/
theorem accepts_half_sigma :
    (∃ suggester : Suggester, suggester.typed = (ofLine "ΑΣ" 0).typed ++ "ΣΟΣ".toList ∧
      suggester.accepts "Ασσος") ∧ (ofLine "ΑΣ" 0).accepts "Ασσος" = false := by
  have longer : ∃ suggester : Suggester,
      suggester.typed = (ofLine "ΑΣ" 0).typed ++ "ΣΟΣ".toList ∧ suggester.accepts "Ασσος" :=
    ⟨ofLine "ΑΣΣΟΣ" 0, by decide, by decide +kernel⟩
  have reopened : Text.Reopens [] (ofLine "ΑΣ" 0).typed "ΣΟΣ".toList :=
    ⟨['Α'], [], by decide, fun char member => (nomatch member), by decide +kernel,
      by decide +kernel⟩
  refine ⟨longer, Bool.eq_false_iff.mpr fun accepted => ?_⟩
  exact (accepts_start_iff (.inr longer)).mp accepted reopened

/-- Not each start of a candidate is accepted for it. -/
theorem not_accepts_every_start :
    ¬ ∀ (suggester shorter : Suggester) (text : String), suggester.typed ≠ [] →
      suggester.accepts text → shorter.typed <+: suggester.typed → shorter.accepts text := by
  intro every
  have accepted := every (ofLine "ΑΣΑ" 0) (ofLine "ΑΣ" 0) "ΑΣΑ" (by decide) (by decide +kernel)
    (by decide)
  exact absurd accepted (by decide +kernel)

end Suggester

end CommandShell
