/-
This file says which texts are read back as they are shown. A text is shown bare, or in double quotes
with an escape for each character without a shape. Reading knows no other escapes than those of the
quotes and of the backslash, so it refuses the others.
-/

import CommandShell.Argument.Value
import CommandShell.Proofs.Grammar

namespace CommandShell

open Argument Text

/-! ### Texts in quotes -/

namespace Text.Quoted

/-- A character is legible if quotes show it as itself, or behind a backslash that reading expects. -/
def Legible (char : Char) : Prop :=
  char = '\x22' ∨ char = '\\' ∨ escape char = [char]

instance : DecidablePred Legible :=
  fun _ => inferInstanceAs (Decidable (_ ∨ _ ∨ _))

/-- The backslash of any other character stands before a letter or a digit. -/
theorem legible_or_escaped (char : Char) :
    Legible char ∨
      ∃ next rest, next ≠ '\x22' ∧ next ≠ '\\' ∧ escape char = '\\' :: next :: rest := by
  fun_cases escape char with
  | case1 => exact .inr ⟨'0', [], by decide, by decide, rfl⟩
  | case2 => exact .inr ⟨'t', [], by decide, by decide, rfl⟩
  | case3 => exact .inr ⟨'r', [], by decide, by decide, rfl⟩
  | case4 => exact .inr ⟨'n', [], by decide, by decide, rfl⟩
  | case5 _ _ _ _ quote => exact .inl (.inl quote)
  | case6 _ _ _ _ _ backslash => exact .inl (.inr (.inl backslash))
  | case7 => exact .inr ⟨'u', _, by decide, by decide, rfl⟩
  | case8 => exact .inl (.inr (.inr (by simp [escape, *])))

variable {text : List Char}

/-- What quotes show of legible characters is a written form of them. -/
theorem written_of_legible (legible : ∀ char ∈ text, Legible char) :
    Quotation.Written '\x22' (text.flatMap escape) text := by
  induction text with
  | nil => exact .nil
  | cons char text inductionHypothesis =>
      obtain ⟨first, others⟩ := List.forall_mem_cons.mp legible
      have written := inductionHypothesis others
      rw [List.flatMap_cons]
      by_cases special : char = '\x22' ∨ char = '\\'
      · have escaped : escape char = ['\\', char] := by
          rcases special with rfl | rfl <;> rfl
        rw [escaped]
        exact .escaped special written
      · obtain ⟨notQuote, notBackslash⟩ := not_or.mp special
        have plain : escape char = [char] := by
          simpa [Legible, notQuote, notBackslash] using first
        rw [plain]
        exact .plain notQuote notBackslash written

/-- Of other texts the part before their first illegible character is a written form. -/
theorem exists_written_of_illegible (illegible : ¬ ∀ char ∈ text, Legible char) :
    ∃ form before next rest, Quotation.Written '\x22' form before ∧ next ≠ '\x22' ∧ next ≠ '\\' ∧
      text.flatMap escape = form ++ '\\' :: next :: rest := by
  cases first : text.find? (fun char => ¬ Legible char) with
  | none => exact absurd (by simpa using first) illegible
  | some char =>
      obtain ⟨hidden, before, behind, rfl, others⟩ := List.find?_eq_some_iff_append.mp first
      have legible : ∀ char ∈ before, Legible char := by simpa using others
      rcases legible_or_escaped char with shown | ⟨next, rest, notQuote, notBackslash, escaped⟩
      · simp [shown] at hidden
      · refine ⟨_, before, next, rest ++ behind.flatMap escape, written_of_legible legible,
          notQuote, notBackslash, ?_⟩
        simp [escaped]

end Text.Quoted

/-! ### Phrases that are shown -/

namespace Cursor

variable {text : String} {consumed after : List Char}

theorem readPhrase_of_opened {quote : Char} {rest : List Char} (opened : isQuote quote) :
    readPhrase ⟨consumed, quote :: rest⟩ = readQuotation ⟨consumed, quote :: rest⟩ := by
  have starts : (Cursor.mk consumed (quote :: rest)).peek?.any isQuote := opened
  rw [readPhrase, if_pos starts]

/-- A text without blanks and quotes is read as a word. -/
theorem readPhrase_of_bare
    (bare : ∀ char ∈ text.toList, isBlank char = false ∧ isQuote char = false)
    (stops : (Cursor.mk consumed after).atBoundary) :
    readPhrase ⟨consumed, text.toList ++ after⟩ = (.ok text, ⟨consumed ++ text.toList, after⟩) := by
  have solid (char : Char) (member : char ∈ text.toList) : isSolid char := by
    simp [isSolid, (bare char member).1]
  have unopened : ¬ (Cursor.mk consumed (text.toList ++ after)).peek?.any isQuote := by
    cases shape : text.toList with
    | nil => simpa using any_isQuote_of_atBoundary stops
    | cons first rest =>
        have notQuote := (bare first (by simp [shape])).2
        simp [peek?, notQuote]
  rw [readPhrase, if_neg unopened, word_append solid stops, skipWord_append solid stops,
    String.ofList_toList]

/-- A text in quotes is read back from them if all its characters are legible. -/
theorem readPhrase_quote_of_legible (legible : ∀ char ∈ text.toList, Quoted.Legible char) :
    readPhrase ⟨consumed, (Quoted.quote text).toList ++ after⟩ =
      (.ok text, ⟨consumed ++ (Quoted.quote text).toList, after⟩) := by
  have opened : isQuote '\x22' := rfl
  have written := Quoted.written_of_legible legible
  simp only [Quoted.quote, Quoted.encode, String.toList_ofList]
  rw [List.cons_append, List.cons_append, readPhrase_of_opened opened]
  refine readQuotation_of_quotes opened ⟨_, after, written, ?_, rfl⟩
  simp

/-- Otherwise its quotation is refused. -/
theorem readPhrase_quote_of_illegible (illegible : ¬ ∀ char ∈ text.toList, Quoted.Legible char) :
    ∃ char place, readPhrase ⟨consumed, (Quoted.quote text).toList ++ after⟩ =
      (.error ⟨.invalidEscape char, place.offset⟩, place) := by
  have opened : isQuote '\x22' := rfl
  obtain ⟨form, before, next, rest, written, notQuote, notBackslash, split⟩ :=
    Quoted.exists_written_of_illegible illegible
  simp only [Quoted.quote, Quoted.encode, String.toList_ofList]
  rw [List.cons_append, List.cons_append, readPhrase_of_opened opened]
  refine ⟨next, _, readQuotation_of_misquotes opened
    ⟨form, before, rest ++ '\x22' :: after, written, notQuote, notBackslash, ?_, rfl⟩⟩
  simp [split]

end Cursor

namespace Argument

variable {text : String} {consumed after : List Char}

theorem Kind.decode_phrase_eq_ok_iff {cursor left : Cursor} :
    Kind.phrase.decode cursor = (.ok (.text text), left) ↔ cursor.readPhrase = (.ok text, left) := by
  rw [Kind.decode_eq_ok_iff, Kind.read]
  rcases cursor.readPhrase with ⟨error | value, other⟩ <;> simp

/-- Texts without blanks and quotes are shown bare. -/
theorem Value.display_text_cases (text : String) :
    (∀ char ∈ text.toList, isBlank char = false ∧ isQuote char = false) ∧
        (Value.text text).display = text ∨
      (¬ ∀ char ∈ text.toList, isBlank char = false ∧ isQuote char = false) ∧
        (Value.text text).display = Quoted.quote text := by
  by_cases quoted : text.toList.any fun char => isBlank char || isQuote char
  · refine .inr ⟨?_, if_pos quoted⟩
    intro bare
    obtain ⟨char, member, found⟩ := List.any_eq_true.mp quoted
    simp [bare char member] at found
  · refine .inl ⟨?_, if_neg quoted⟩
    simpa using quoted

/-- A text is read back as it is shown, up to the end of what is shown of it, exactly if it is bare or
all its characters are legible in quotes. -/
theorem Value.decode_display_iff (stops : (Cursor.mk consumed after).atBoundary) :
    Kind.phrase.decode ⟨consumed, (Value.text text).display.toList ++ after⟩ =
        (.ok (.text text), ⟨consumed ++ (Value.text text).display.toList, after⟩) ↔
      (∀ char ∈ text.toList, isBlank char = false ∧ isQuote char = false) ∨
        ∀ char ∈ text.toList, Quoted.Legible char := by
  rw [Kind.decode_phrase_eq_ok_iff]
  rcases Value.display_text_cases text with ⟨bare, shown⟩ | ⟨notBare, shown⟩
  · rw [shown]
    exact iff_of_true (Cursor.readPhrase_of_bare bare stops) (.inl bare)
  · rw [shown, or_iff_right notBare]
    by_cases legible : ∀ char ∈ text.toList, Quoted.Legible char
    · exact iff_of_true (Cursor.readPhrase_quote_of_legible legible) legible
    · refine iff_of_false ?_ legible
      intro success
      obtain ⟨char, place, failure⟩ := Cursor.readPhrase_quote_of_illegible legible
      rw [failure] at success
      cases success

/-- A text with a blank, both kinds of quotes and a backslash is read back in front of another word. -/
theorem Value.decode_display_mixed :
    let text := "it's \"\\\""
    let shown := "\"it's \\\"\\\\\\\"\""
    (Cursor.mk [] " 3".toList).atBoundary ∧ (∀ char ∈ text.toList, Quoted.Legible char) ∧
      (Value.text text).display = shown ∧
      Kind.phrase.decode ⟨[], shown.toList ++ " 3".toList⟩ =
        (.ok (.text text), ⟨shown.toList, " 3".toList⟩) := by
  intro text shown
  have stops : (Cursor.mk [] " 3".toList).atBoundary := by decide
  have all : text.toList.all fun char => Quoted.Legible char := by decide +kernel
  have legible : ∀ char ∈ text.toList, Quoted.Legible char := by simpa using all
  have shows : (Value.text text).display = shown := by decide +kernel
  have readBack := (Value.decode_display_iff stops).mpr (.inr legible)
  rw [shows] at readBack
  exact ⟨stops, legible, shows, readBack⟩

end Argument

end CommandShell
