/-
This file says when a line needs more text. Splitting the line into tokens finds a quotation that is
not terminated exactly where a quote stays open, unless a backslash that escapes nothing ends the
splitting before.
-/

import CommandShell.Proofs.Grammar
import CommandShell.Shell.Completeness

namespace CommandShell

open Argument Text

/-! ### Tokens -/

/-- A token is a quotation with the solid text right behind it, or a word that starts with no
quote. -/
inductive Text.Token : List Char → Prop where
  | quoted {quote : Char} {form text tail : List Char} (opened : isQuote quote)
      (written : Quotation.Written quote form text) (solid : ∀ char ∈ tail, isSolid char) :
      Token (quote :: form ++ quote :: tail)
  | plain {first : Char} {tail : List Char} (unquoted : isQuote first = false)
      (solid : ∀ char ∈ first :: tail, isSolid char) : Token (first :: tail)

theorem Text.Token.length_pos {text : List Char} (token : Token text) : 0 < text.length := by
  cases token <;> simp

namespace Cursor

variable {cursor left : Cursor} {error : DecodeError}

/-- This reads a quotation, if one starts here, and then all up to the next boundary. -/
def readToken (cursor : Cursor) : Except DecodeError Cursor :=
  if cursor.peek?.any isQuote then
    match cursor.readQuotation with
    | (.ok _, left) => .ok left.skipWord
    | (.error error, _) => .error error
  else
    .ok cursor.skipWord

theorem word_append_remaining (cursor : Cursor) :
    cursor.word ++ cursor.skipWord.remaining = cursor.remaining := by
  rw [skipWord_eq]
  exact List.takeWhile_append_dropWhile

theorem solid_word (cursor : Cursor) : ∀ char ∈ cursor.word, isSolid char :=
  fun _ => solid_of_mem_word

theorem length_skipBlanks_le (cursor : Cursor) :
    cursor.skipBlanks.remaining.length ≤ cursor.remaining.length := by
  rw [skipBlanks_eq]
  exact (List.dropWhile_sublist isBlank).length_le

theorem exists_quoted_token {text : String} (opened : cursor.peek?.any isQuote)
    (read : cursor.readQuotation = (.ok text, left)) :
    ∃ token, Token token ∧ cursor.remaining = token ++ left.skipWord.remaining := by
  obtain ⟨consumed, remaining⟩ := cursor
  cases remaining with
  | nil => cases opened
  | cons quote rest =>
      obtain ⟨form, tail, written, rfl, rfl⟩ := exists_written opened read
      let behind : Cursor := ⟨consumed ++ (quote :: form ++ [quote]), tail⟩
      have split : behind.word ++ behind.skipWord.remaining = tail := behind.word_append_remaining
      refine ⟨_, .quoted opened written behind.solid_word, ?_⟩
      rw [List.append_assoc, List.cons_append, List.cons_append, split]

theorem exists_plain_token (more : ¬ cursor.atEnd) (solid : cursor.atBlank = false)
    (unopened : ¬ cursor.peek?.any isQuote) :
    ∃ token, Token token ∧ cursor.remaining = token ++ cursor.skipWord.remaining := by
  refine ⟨cursor.word, ?_, cursor.word_append_remaining.symm⟩
  obtain ⟨consumed, remaining⟩ := cursor
  cases remaining with
  | nil => exact absurd rfl more
  | cons first rest =>
      have solid : isBlank first = false := solid
      have starts : word ⟨consumed, first :: rest⟩ = first :: rest.takeWhile isSolid := by
        simp [word, isSolid, solid]
      rw [starts]
      apply Token.plain (Bool.eq_false_iff.mpr unopened)
      rw [← starts]
      exact solid_word _

/-- What is read at a token is this token, up to the next boundary. -/
theorem exists_token (more : ¬ cursor.atEnd) (solid : cursor.atBlank = false)
    (success : cursor.readToken = .ok left) :
    left.atBoundary ∧ ∃ text, Token text ∧ cursor.remaining = text ++ left.remaining := by
  unfold readToken at success
  split at success
  · rename_i opened
    cases read : cursor.readQuotation with
    | mk result behind =>
        rw [read] at success
        cases result with
        | error error => cases success
        | ok text =>
            cases success
            exact ⟨behind.atBoundary_skipWord, exists_quoted_token opened read⟩
  · rename_i unopened
    cases success
    exact ⟨cursor.atBoundary_skipWord, exists_plain_token more solid unopened⟩

theorem fault_of_readToken (failure : cursor.readToken = .error error) :
    (error.fault = .unterminatedQuote ∧ ∃ quote rest, isQuote quote ∧
      cursor.remaining = quote :: rest ∧
        (Quotation.read quote rest).result = .error .unterminated) ∨
      ∃ char, error.fault = .invalidEscape char := by
  obtain ⟨consumed, remaining⟩ := cursor
  cases remaining with
  | nil => cases failure
  | cons quote rest =>
      unfold readToken at failure
      split at failure
      · rename_i opened
        have opened : isQuote quote := opened
        simp only [readQuotation, opened, ↓reduceIte] at failure
        cases result : (Quotation.read quote rest).result with
        | ok text => simp [result] at failure
        | error fault =>
            cases fault with
            | unterminated =>
                simp only [result, Except.error.injEq] at failure
                subst failure
                exact .inl ⟨rfl, quote, rest, opened, rfl, result⟩
            | invalidEscape char =>
                simp only [result, Except.error.injEq] at failure
                subst failure
                exact .inr ⟨char, rfl⟩
      · cases failure

/-- This splits what remains of a line into tokens, up to the end of the line or a fault. -/
def tokenFault? (cursor : Cursor) : Option DecodeError :=
  if ended : cursor.skipBlanks.atEnd then
    none
  else
    match token : cursor.skipBlanks.readToken with
    | .error error => some error
    | .ok left =>
        have : left.remaining.length < cursor.remaining.length := by
          obtain ⟨_, text, isToken, split⟩ := exists_token ended cursor.atBlank_skipBlanks token
          have shorter := cursor.length_skipBlanks_le
          have longer := isToken.length_pos
          rw [split, List.length_append] at shorter
          omega
        left.tokenFault?
termination_by cursor.remaining.length

end Cursor

/-! ### Open quotes -/

theorem Text.Quotation.result_of_cons {char : Char} {quotation : Quotation} {fault : QuotationFault}
    (failure : (cons char quotation).result = .error fault) : quotation.result = .error fault := by
  obtain ⟨result, remainder⟩ := quotation
  cases result with
  | ok text => cases failure
  | error other =>
      cases failure
      rfl

namespace Shell.QuoteState

variable {quote : Char} {text form rest : List Char}

theorem next_blank {char : Char} (blank : isBlank char) (atStart : Bool) :
    next (.outside atStart) char = .outside true := by
  simp [next, Cursor.notQuote_of_isBlank blank, blank]

theorem foldl_next_blanks (blank : ∀ char ∈ text, isBlank char) :
    text.foldl next (.outside true) = .outside true := by
  induction text with
  | nil => rfl
  | cons char text inductionHypothesis =>
      obtain ⟨first, blank⟩ := List.forall_mem_cons.mp blank
      rw [List.foldl_cons, next_blank first, inductionHypothesis blank]

/-- Quotes do not count within a word. -/
theorem foldl_next_solid (solid : ∀ char ∈ text, isSolid char) :
    text.foldl next (.outside false) = .outside false := by
  induction text with
  | nil => rfl
  | cons char text inductionHypothesis =>
      obtain ⟨first, solid⟩ := List.forall_mem_cons.mp solid
      have stays : next (.outside false) char = .outside false := by
        simpa [next, isSolid] using first
      rw [List.foldl_cons, stays, inductionHypothesis solid]

theorem foldl_next_written (written : Quotation.Written quote form text) :
    form.foldl next (.inside quote) = .inside quote := by
  induction written with
  | nil => rfl
  | plain notQuote notBackslash _ inductionHypothesis =>
      simpa [next, notQuote, notBackslash] using inductionHypothesis
  | escaped _ _ inductionHypothesis => simpa [next] using inductionHypothesis

theorem foldl_next_token (token : Token text) :
    text.foldl next (.outside true) = .outside false := by
  cases token with
  | @quoted quote form text tail opened written solid =>
      have notBackslash : quote ≠ '\\' := by
        rintro rfl
        exact absurd opened (by decide)
      have opens : next (.outside true) quote = .inside quote := by simp [next, opened]
      have closes : next (.inside quote) quote = .outside false := by
        simp [next, notBackslash, Cursor.notBlank_of_isQuote opened]
      rw [List.cons_append, List.foldl_cons, opens, List.foldl_append, foldl_next_written written,
        List.foldl_cons, closes, foldl_next_solid solid]
  | @plain first tail unquoted solid =>
      obtain ⟨starts, solid⟩ := List.forall_mem_cons.mp solid
      have leaves : next (.outside true) first = .outside false := by
        simpa [next, unquoted, isSolid] using starts
      rw [List.foldl_cons, leaves, foldl_next_solid solid]

/-- A quotation that is not terminated keeps its quote open. -/
theorem isOutside_of_unterminated
    (unterminated : (Quotation.read quote text).result = .error .unterminated) :
    (text.foldl next (.inside quote)).isOutside = false := by
  fun_induction Quotation.read quote text with
  | case1 => rfl
  | case2 => rfl
  | case3 => cases unterminated
  | case4 char notBackslash notQuote => simp [next, notBackslash, notQuote, isOutside]
  | case5 escaped rest special inductionHypothesis =>
      simpa [next] using inductionHypothesis (Quotation.result_of_cons unterminated)
  | case6 => cases unterminated
  | case7 => cases unterminated
  | case8 char second rest notBackslash notQuote inductionHypothesis =>
      have stays : next (.inside quote) char = .inside quote := by
        simp [next, notBackslash, notQuote]
      rw [List.foldl_cons, stays]
      exact inductionHypothesis (Quotation.result_of_cons unterminated)

end Shell.QuoteState

/-! ### Agreement -/

namespace Shell

variable {cursor : Cursor} {atStart : Bool}

/-- How the splitting of a line ends settles whether its quotes are closed. A backslash that escapes
nothing ends the splitting within a quotation, of which the rest of the line may hold the end. -/
inductive Settles : Option DecodeError → Bool → Prop where
  | complete : Settles none true
  | unterminated {error : DecodeError} (fault : error.fault = .unterminatedQuote) :
      Settles (some error) false
  | misquoted {error : DecodeError} {char : Char} (fault : error.fault = .invalidEscape char)
      (closed : Bool) : Settles (some error) closed

/-- In front of a token blanks change nothing but that a quotation may start. -/
theorem isOutside_skipBlanks (starts : atStart ∨ cursor.atBoundary) :
    (cursor.remaining.foldl QuoteState.next (.outside atStart)).isOutside =
      (cursor.skipBlanks.remaining.foldl QuoteState.next (.outside true)).isOutside := by
  obtain ⟨blanks, blank, split, _⟩ := cursor.exists_blanks
  have remaining : cursor.remaining = blanks ++ cursor.skipBlanks.remaining :=
    congrArg Cursor.remaining split
  cases blanks with
  | nil =>
      cases atStart with
      | true => rw [remaining, List.nil_append]
      | false =>
          -- Right behind a token no blank is skipped only where the line ends.
          have ended : cursor.atEnd := by
            rcases cursor.atBoundary_iff.mp (starts.resolve_left Bool.false_ne_true) with
              ended | goesOn
            · exact ended
            · have stops := cursor.atBlank_skipBlanks
              rw [Cursor.atBlank, Cursor.peek?, ← List.nil_append cursor.skipBlanks.remaining,
                ← remaining] at stops
              exact absurd goesOn (Bool.eq_false_iff.mp stops)
          rw [← List.nil_append cursor.skipBlanks.remaining, ← remaining,
            cursor.atEnd_iff.mp ended]
          rfl
  | cons first blanks =>
      obtain ⟨separates, blank⟩ := List.forall_mem_cons.mp blank
      rw [remaining, List.foldl_append, List.foldl_cons, QuoteState.next_blank separates,
        QuoteState.foldl_next_blanks blank]

theorem tokenFault?_settles (cursor : Cursor) (starts : atStart ∨ cursor.atBoundary) :
    Settles cursor.tokenFault?
      (cursor.remaining.foldl QuoteState.next (.outside atStart)).isOutside := by
  fun_induction Cursor.tokenFault? cursor generalizing atStart with
  | case1 cursor ended =>
      rw [isOutside_skipBlanks starts, cursor.skipBlanks.atEnd_iff.mp ended]
      exact .complete
  | case2 cursor more error failure =>
      rw [isOutside_skipBlanks starts]
      rcases Cursor.fault_of_readToken failure with
        ⟨fault, quote, rest, opened, remaining, unterminated⟩ | ⟨char, fault⟩
      · have opens : QuoteState.next (.outside true) quote = .inside quote := by
          simp [QuoteState.next, opened]
        rw [remaining, List.foldl_cons, opens, QuoteState.isOutside_of_unterminated unterminated]
        exact .unterminated fault
      · exact .misquoted fault _
  | case3 cursor more left success _ inductionHypothesis =>
      obtain ⟨boundary, text, token, split⟩ :=
        Cursor.exists_token more cursor.atBlank_skipBlanks success
      rw [isOutside_skipBlanks starts, split, List.foldl_append, QuoteState.foldl_next_token token]
      exact inductionHypothesis (.inr boundary)

namespace Settles

variable {error : DecodeError} {fault? : Option DecodeError} {closed : Bool}

theorem eq_true (settles : Settles none closed) : closed = true := by
  cases settles
  rfl

theorem eq_false (settles : Settles (some error) closed)
    (kind : error.fault.kind = .unterminatedQuote) : closed = false := by
  cases settles with
  | unterminated => rfl
  | misquoted fault =>
      rw [fault] at kind
      cases kind

theorem exists_fault (settles : Settles fault? false) : ∃ error, fault? = some error ∧
    (error.fault.kind = .unterminatedQuote ∨ error.fault.kind = .invalidEscape) := by
  cases settles with
  | @unterminated error fault => exact ⟨error, rfl, .inl (congrArg Fault.kind fault)⟩
  | @misquoted error char fault => exact ⟨error, rfl, .inr (congrArg Fault.kind fault)⟩

end Settles

/-- A line without a fault is closed, and one with a quotation that is not terminated is open. Else
it may only be open with a backslash that escapes nothing. -/
theorem quotesClosed_of_tokens (line : String) :
    let fault? := (Cursor.ofLine line).tokenFault?
    (fault? = none → quotesClosed line = true) ∧
    (∀ error, fault? = some error → error.fault.kind = .unterminatedQuote →
      quotesClosed line = false) ∧
    (quotesClosed line = false → ∃ error, fault? = some error ∧
      (error.fault.kind = .unterminatedQuote ∨ error.fault.kind = .invalidEscape)) := by
  have settles : Settles (Cursor.ofLine line).tokenFault? (quotesClosed line) :=
    tokenFault?_settles (Cursor.ofLine line) (.inl rfl)
  dsimp only
  refine ⟨fun whole => ?_, fun error faulty kind => ?_, fun opened => ?_⟩
  · rw [whole] at settles
    exact settles.eq_true
  · rw [faulty] at settles
    exact settles.eq_false kind
  · rw [opened] at settles
    exact settles.exists_fault

/-- Quotes behind the start of a token do not count, and a backslash hides any character. -/
theorem quotesClosed_glued :
    let glued := "say \"a\"'b it's"
    let opened := "say \"a\"'b 'it's \""
    let misquoted := "say 'a\\q"
    ((Cursor.ofLine glued).tokenFault? = none ∧ quotesClosed glued = true) ∧
    ((Cursor.ofLine opened).tokenFault? = some ⟨.unterminatedQuote, 17⟩ ∧
      quotesClosed opened = false) ∧
    quotesClosed misquoted = false ∧ ∃ error, (Cursor.ofLine misquoted).tokenFault? = some error ∧
      (error.fault.kind = .unterminatedQuote ∨ error.fault.kind = .invalidEscape) := by
  intro glued opened misquoted
  have whole : (Cursor.ofLine glued).tokenFault? = none := by decide +kernel
  have faulty : (Cursor.ofLine opened).tokenFault? = some ⟨.unterminatedQuote, 17⟩ := by
    decide +kernel
  have unclosed : quotesClosed misquoted = false := by decide
  exact ⟨⟨whole, (quotesClosed_of_tokens glued).1 whole⟩,
    ⟨faulty, (quotesClosed_of_tokens opened).2.1 _ faulty rfl⟩,
    unclosed, (quotesClosed_of_tokens misquoted).2.2 unclosed⟩

end Shell

end CommandShell
