/-
This file says by which grammar quotations are read. Behind an opening quote stand characters for
themselves and escapes, and the first thing that is neither decides the result and the place where
reading stops.
-/

import CommandShell.Proofs.Reading

namespace CommandShell

open Argument Text

namespace Text.Quotation

variable {quote char : Char} {form text input : List Char}

/-- What stands behind a written form decides how the reading ends. -/
theorem read_append (written : Written quote form text) (rest : List Char) :
    read quote (form ++ rest) = text.foldr cons (read quote rest) := by
  induction written with
  | nil => rfl
  | plain notQuote notBackslash _ inductionHypothesis =>
      rw [List.cons_append, read_plain notQuote notBackslash, inductionHypothesis]
      rfl
  | escaped special _ inductionHypothesis =>
      rw [List.cons_append, List.cons_append, read_escaped special, inductionHypothesis]
      rfl

/-- A fault hides the text before it. -/
theorem foldr_cons_error (fault : QuotationFault) (remainder text : List Char) :
    text.foldr cons ⟨.error fault, remainder⟩ = ⟨.error fault, remainder⟩ := by
  induction text with
  | nil => rfl
  | cons char text inductionHypothesis =>
      rw [List.foldr_cons, inductionHypothesis]
      rfl

theorem read_invalidEscape (written : Written quote form text) (notQuote : char ≠ quote)
    (notBackslash : char ≠ '\\') (rest : List Char) :
    read quote (form ++ '\\' :: char :: rest) =
      ⟨.error (.invalidEscape char), char :: rest⟩ := by
  have stops : read quote ('\\' :: char :: rest) =
      ⟨.error (.invalidEscape char), char :: rest⟩ := by
    simp [read, notQuote, notBackslash]
  rw [read_append written, stops, foldr_cons_error]

/-- A text that is neither closed nor has a backslash that escapes nothing is read to its end. -/
theorem read_cases (quote : Char) (input : List Char) :
    (∃ text, (read quote input).result = .ok text) ∨
      (∃ form text char rest, Written quote form text ∧ char ≠ quote ∧ char ≠ '\\' ∧
        input = form ++ '\\' :: char :: rest) ∨
      read quote input = ⟨.error .unterminated, []⟩ := by
  fun_induction read quote input with
  | case1 | case2 | case4 => exact .inr (.inr rfl)
  | case3 | case7 => exact .inl ⟨[], rfl⟩
  | case5 next rest special inductionHypothesis =>
      simp only [Bool.or_eq_true, decide_eq_true_eq] at special
      rcases inductionHypothesis with
        ⟨text, success⟩ | ⟨form, text, char, tail, written, found⟩ | ended
      · exact .inl ⟨next :: text, by simp [cons, success, Except.map]⟩
      · obtain ⟨notQuote, notBackslash, rfl⟩ := found
        exact .inr (.inl ⟨_, _, char, tail, .escaped special written, notQuote, notBackslash, rfl⟩)
      · rw [ended]
        exact .inr (.inr rfl)
  | case6 next rest ordinary =>
      simp only [Bool.or_eq_true, decide_eq_true_eq, not_or] at ordinary
      exact .inr (.inl ⟨[], [], next, rest, .nil, ordinary.1, ordinary.2, rfl⟩)
  | case8 char next rest notBackslash notQuote inductionHypothesis =>
      rcases inductionHypothesis with
        ⟨text, success⟩ | ⟨form, text, other, tail, written, found⟩ | ended
      · exact .inl ⟨char :: text, by simp [cons, success, Except.map]⟩
      · obtain ⟨otherNotQuote, otherNotBackslash, split⟩ := found
        exact .inr (.inl ⟨_, _, other, tail, .plain notQuote notBackslash written, otherNotQuote,
          otherNotBackslash, congrArg (char :: ·) split⟩)
      · rw [ended]
        exact .inr (.inr rfl)

/-- The encoded form of a text is one of its written forms. -/
theorem exists_encode_eq (quote : Char) (text : List Char) :
    ∃ form, Written quote form text ∧ encode quote text = quote :: form ++ [quote] := by
  suffices written : Written quote (text.flatMap fun char =>
      if char = quote || char = '\\' then ['\\', char] else [char]) text from ⟨_, written, rfl⟩
  induction text with
  | nil => exact .nil
  | cons char text inductionHypothesis =>
      rw [List.flatMap_cons]
      by_cases special : char = quote ∨ char = '\\'
      · simpa [special] using Written.escaped special inductionHypothesis
      · obtain ⟨notQuote, notBackslash⟩ := not_or.mp special
        simpa [notQuote, notBackslash] using Written.plain notQuote notBackslash inductionHypothesis

end Text.Quotation

namespace Cursor

/-- Between a cursor and the place behind it stands a text in its quotes. -/
def Quotes (cursor : Cursor) (quote : Char) (text : String) (after : Cursor) : Prop :=
  ∃ form rest, Quotation.Written quote form text.toList ∧
    cursor.remaining = quote :: form ++ quote :: rest ∧
      after = ⟨cursor.consumed ++ (quote :: form ++ [quote]), rest⟩

/-- Before the quotation at a cursor is closed, a backslash stands before a character that is no
quote of this kind and no backslash. The place is the one of the character. -/
def Misquotes (cursor : Cursor) (quote char : Char) (place : Cursor) : Prop :=
  ∃ form text rest, Quotation.Written quote form text ∧ char ≠ quote ∧ char ≠ '\\' ∧
    cursor.remaining = quote :: form ++ '\\' :: char :: rest ∧
      place = ⟨cursor.consumed ++ (quote :: form ++ ['\\']), char :: rest⟩

variable {cursor after place : Cursor} {quote char : Char} {text : String}

theorem Quotes.peek?_eq (quotes : cursor.Quotes quote text after) : cursor.peek? = some quote := by
  obtain ⟨form, rest, _, remaining, _⟩ := quotes
  rw [peek?, remaining]
  rfl

theorem readQuotation_of_quotes (opened : isQuote quote)
    (quotes : cursor.Quotes quote text after) : cursor.readQuotation = (.ok text, after) := by
  obtain ⟨consumed, remaining⟩ := cursor
  obtain ⟨form, rest, written, rfl, rfl⟩ := quotes
  exact readQuotation_written opened written consumed rest

theorem readQuotation_of_misquotes (opened : isQuote quote)
    (misquotes : cursor.Misquotes quote char place) :
    cursor.readQuotation = (.error ⟨.invalidEscape char, place.offset⟩, place) := by
  obtain ⟨consumed, remaining⟩ := cursor
  obtain ⟨form, body, rest, written, notQuote, notBackslash, rfl, rfl⟩ := misquotes
  have stopped := Quotation.read_invalidEscape written notQuote notBackslash rest
  have left := leave_append consumed (quote :: form ++ ['\\']) (char :: rest)
  simp only [List.cons_append, List.append_assoc, List.nil_append] at left ⊢
  simp [readQuotation, opened, stopped, left]

/-- Each quotation is read in one of three ways. -/
theorem readQuotation_cases (opened : isQuote quote) (starts : cursor.peek? = some quote) :
    (∃ text after, cursor.Quotes quote text after) ∨
      (∃ char place, cursor.Misquotes quote char place) ∨
      cursor.readQuotation =
        (.error ⟨.unterminatedQuote, byteLength cursor.line⟩, ⟨cursor.line, []⟩) := by
  obtain ⟨consumed, remaining⟩ := cursor
  obtain ⟨rest, rfl⟩ := List.head?_eq_some_iff.mp starts
  rcases Quotation.read_cases quote rest with ⟨text, success⟩ | misquoted | ended
  · obtain ⟨form, written, split⟩ := Quotation.exists_written success
    refine .inl ⟨String.ofList text, _, form, _, ?_, congrArg (quote :: ·) split, rfl⟩
    rwa [String.toList_ofList]
  · obtain ⟨form, text, char, tail, written, notQuote, notBackslash, rfl⟩ := misquoted
    exact .inr (.inl ⟨char, _, form, text, tail, written, notQuote, notBackslash, rfl, rfl⟩)
  · refine .inr (.inr ?_)
    have left : leave [] ⟨consumed, quote :: rest⟩ = ⟨consumed ++ quote :: rest, []⟩ := by
      simpa using leave_append consumed (quote :: rest) []
    simp [readQuotation, opened, ended, left, offset, line]

theorem readQuotation_eq_ok_iff (opened : isQuote quote) (starts : cursor.peek? = some quote) :
    cursor.readQuotation = (.ok text, after) ↔ cursor.Quotes quote text after := by
  refine ⟨fun success => ?_, readQuotation_of_quotes opened⟩
  obtain ⟨consumed, remaining⟩ := cursor
  obtain ⟨rest, rfl⟩ := List.head?_eq_some_iff.mp starts
  obtain ⟨form, tail, written, rfl, rfl⟩ := exists_written opened success
  exact ⟨form, tail, written, rfl, rfl⟩

theorem readQuotation_eq_error_iff {error : DecodeError} (opened : isQuote quote)
    (starts : cursor.peek? = some quote) :
    cursor.readQuotation = (.error error, place) ↔
      (∃ char, cursor.Misquotes quote char place ∧ error = ⟨.invalidEscape char, place.offset⟩) ∨
        ((¬ ∃ text after, cursor.Quotes quote text after) ∧
          (¬ ∃ char other, cursor.Misquotes quote char other) ∧
            place = ⟨cursor.line, []⟩ ∧ error = ⟨.unterminatedQuote, place.offset⟩) := by
  constructor
  · intro failure
    rcases readQuotation_cases opened starts with
      ⟨text, after, quotes⟩ | ⟨char, other, misquotes⟩ | unterminated
    · rw [readQuotation_of_quotes opened quotes] at failure
      cases failure
    · rw [readQuotation_of_misquotes opened misquotes] at failure
      cases failure
      exact .inl ⟨char, misquotes, rfl⟩
    · rw [unterminated] at failure
      cases failure
      -- The other two ways would give another result of the same reading.
      refine .inr ⟨?_, ?_, rfl, rfl⟩
      · rintro ⟨text, after, quotes⟩
        rw [readQuotation_of_quotes opened quotes] at unterminated
        cases unterminated
      · rintro ⟨char, other, misquotes⟩
        rw [readQuotation_of_misquotes opened misquotes] at unterminated
        cases unterminated
  · rintro (⟨char, misquotes, rfl⟩ | ⟨notQuoted, notMisquoted, rfl, rfl⟩)
    · exact readQuotation_of_misquotes opened misquotes
    · rcases readQuotation_cases opened starts with quotes | misquotes | unterminated
      · exact absurd quotes notQuoted
      · exact absurd misquotes notMisquoted
      · exact unterminated

theorem readQuotation_encode (opened : isQuote quote) (consumed rest : List Char) (text : String) :
    readQuotation ⟨consumed, Quotation.encode quote text.toList ++ rest⟩ =
      (.ok text, ⟨consumed ++ Quotation.encode quote text.toList, rest⟩) := by
  obtain ⟨form, written, encoded⟩ := Quotation.exists_encode_eq quote text.toList
  rw [encoded]
  exact readQuotation_of_quotes opened ⟨form, rest, written, by simp, rfl⟩

/-- Exactly the texts in quotes are read, up to their closing quote. Otherwise a backslash that
escapes nothing is reported at the character behind it, and the rest is not terminated. So any text
in quotes, with a backslash where it needs one, is read back before any other. -/
theorem readQuotation_iff_grammar (opened : isQuote quote) (starts : cursor.peek? = some quote) :
    (∀ text after, cursor.readQuotation = (.ok text, after) ↔ cursor.Quotes quote text after) ∧
      (∀ error place, cursor.readQuotation = (.error error, place) ↔
        (∃ char, cursor.Misquotes quote char place ∧ error = ⟨.invalidEscape char, place.offset⟩) ∨
          ((¬ ∃ text after, cursor.Quotes quote text after) ∧
            (¬ ∃ char other, cursor.Misquotes quote char other) ∧
              place = ⟨cursor.line, []⟩ ∧ error = ⟨.unterminatedQuote, place.offset⟩)) ∧
        ∀ (consumed rest : List Char) (text : String),
          readQuotation ⟨consumed, Quotation.encode quote text.toList ++ rest⟩ =
            (.ok text, ⟨consumed ++ Quotation.encode quote text.toList, rest⟩) :=
  ⟨fun _ _ => readQuotation_eq_ok_iff opened starts,
    fun _ _ => readQuotation_eq_error_iff opened starts, readQuotation_encode opened⟩

/-- An escaped quote does not end a quotation, and offsets are measured in bytes. -/
theorem readQuotation_misquoted :
    let cursor : Cursor := ⟨"é ".toList, "'\\'ü \\n'".toList⟩
    isQuote '\x27' ∧ cursor.peek? = some '\x27' ∧ cursor.readQuotation =
      (.error ⟨.invalidEscape 'n', 10⟩, ⟨"é '\\'ü \\".toList, "n'".toList⟩) := by
  intro cursor
  have opened : isQuote '\x27' := rfl
  have starts : cursor.peek? = some '\x27' := rfl
  have written : Quotation.Written '\x27' ['\\', '\x27', 'ü', ' '] ['\x27', 'ü', ' '] :=
    .escaped (.inl rfl) <| .plain (by decide) (by decide) <| .plain (by decide) (by decide) .nil
  obtain ⟨_, faulty, _⟩ := readQuotation_iff_grammar opened starts
  refine ⟨opened, starts, (faulty _ _).mpr (.inl ⟨'n', ?_, by decide⟩)⟩
  exact ⟨_, _, ['\x27'], written, by decide, by decide, by decide, by decide⟩

end Cursor

end CommandShell
