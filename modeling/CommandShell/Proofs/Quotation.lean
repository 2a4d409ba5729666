/-
This file says which texts quotations are written as. Reading takes the written form up to the first
quote that closes it, so that what stands behind this quote does not matter.
-/

import CommandShell.Text.Quotation

namespace CommandShell.Text.Quotation

/-- A text is written between its quotes with a backslash before each quote and each backslash. -/
inductive Written (quote : Char) : List Char → List Char → Prop where
  | nil : Written quote [] []
  | plain {char : Char} {form text : List Char} (notQuote : char ≠ quote)
      (notBackslash : char ≠ '\\') (rest : Written quote form text) :
      Written quote (char :: form) (char :: text)
  | escaped {char : Char} {form text : List Char} (special : char = quote ∨ char = '\\')
      (rest : Written quote form text) : Written quote ('\\' :: char :: form) (char :: text)

theorem read_quote {quote : Char} (notBackslash : quote ≠ '\\') (rest : List Char) :
    read quote (quote :: rest) = ⟨.ok [], rest⟩ := by
  cases rest <;> simp [read, notBackslash]

theorem read_plain {quote char : Char} (notQuote : char ≠ quote) (notBackslash : char ≠ '\\')
    (rest : List Char) : read quote (char :: rest) = cons char (read quote rest) := by
  cases rest <;> simp [read, cons, Except.map, notQuote, notBackslash]

theorem read_escaped {quote char : Char} (special : char = quote ∨ char = '\\')
    (rest : List Char) :
    read quote ('\\' :: char :: rest) = cons char (read quote rest) := by
  simp [read, special]

/-- Reading undoes writing, whatever follows. -/
theorem read_written {quote : Char} {form text : List Char} (notBackslash : quote ≠ '\\')
    (written : Written quote form text) (rest : List Char) :
    read quote (form ++ quote :: rest) = ⟨.ok text, rest⟩ := by
  induction written with
  | nil => exact read_quote notBackslash rest
  | plain notQuote notBackslash _ inductionHypothesis =>
      rw [List.cons_append, read_plain notQuote notBackslash, inductionHypothesis]
      rfl
  | escaped special _ inductionHypothesis =>
      rw [List.cons_append, List.cons_append, read_escaped special, inductionHypothesis]
      rfl

theorem exists_of_result_cons {char : Char} {quotation : Quotation} {text : List Char}
    (success : (cons char quotation).result = .ok text) :
    ∃ tail, quotation.result = .ok tail ∧ text = char :: tail := by
  obtain ⟨result, remainder⟩ := quotation
  cases result with
  | error fault => cases success
  | ok tail =>
      cases success
      exact ⟨tail, rfl, rfl⟩

/-- Only written forms are read. -/
theorem exists_written {quote : Char} {input text : List Char}
    (success : (read quote input).result = .ok text) :
    ∃ form, Written quote form text ∧ input = form ++ quote :: (read quote input).remainder := by
  fun_induction read quote input generalizing text with
  | case1 | case2 | case4 | case6 => cases success
  | case3 =>
      cases success
      exact ⟨[], .nil, rfl⟩
  | case5 next rest special inductionHypothesis =>
      obtain ⟨tail, tailRead, rfl⟩ := exists_of_result_cons success
      obtain ⟨form, written, split⟩ := inductionHypothesis tailRead
      simp only [Bool.or_eq_true, decide_eq_true_eq] at special
      refine ⟨'\\' :: next :: form, .escaped special written, ?_⟩
      exact congrArg ('\\' :: next :: ·) split
  | case7 =>
      cases success
      exact ⟨[], .nil, rfl⟩
  | case8 char next rest notBackslash notQuote inductionHypothesis =>
      obtain ⟨tail, tailRead, rfl⟩ := exists_of_result_cons success
      obtain ⟨form, written, split⟩ := inductionHypothesis tailRead
      refine ⟨char :: form, .plain notQuote notBackslash written, ?_⟩
      exact congrArg (char :: ·) split

/-- Characters that need no backslash belong to the text. -/
theorem Written.mem_text {quote char : Char} {form text : List Char}
    (written : Written quote form text) (member : char ∈ form) (notQuote : char ≠ quote)
    (notBackslash : char ≠ '\\') : char ∈ text := by
  induction written with
  | nil => exact member
  | plain _ _ _ inductionHypothesis =>
      rcases List.mem_cons.mp member with rfl | member
      · exact List.mem_cons_self
      · exact List.mem_cons_of_mem _ (inductionHypothesis member)
  | escaped special _ inductionHypothesis =>
      rcases List.mem_cons.mp member with rfl | member
      · exact absurd rfl notBackslash
      rcases List.mem_cons.mp member with rfl | member
      · exact List.mem_cons_self
      · exact List.mem_cons_of_mem _ (inductionHypothesis member)

end CommandShell.Text.Quotation
