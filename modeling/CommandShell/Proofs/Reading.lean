/-
This file says what the segments of a tree read. A segment reads as far as it can, and an attempt to
match it succeeds where this is a boundary; otherwise the attempt changes nothing.
-/

import CommandShell.Node.Walk
import CommandShell.Proofs.Cursor
import CommandShell.Proofs.Quotation

namespace CommandShell

open Argument Text

namespace Argument.Kind

theorem reaches_readWord (kind : Kind) (cursor : Cursor) :
    cursor.Reaches (kind.readWord cursor).2 := by
  unfold readWord
  split <;> exact cursor.reaches_skipWord

theorem read_eq_readWord {kind : Kind} (notPhrase : kind ≠ .phrase)
    (notRemainder : kind ≠ .remainder) (cursor : Cursor) :
    kind.read cursor = kind.readWord cursor := by
  cases kind <;> first | rfl | contradiction

theorem reaches_read (kind : Kind) (cursor : Cursor) : cursor.Reaches (kind.read cursor).2 := by
  by_cases phrase : kind = .phrase
  · have reached := cursor.reaches_readPhrase
    subst phrase
    unfold read
    dsimp only
    split <;> rename_i same <;> rwa [same] at reached
  by_cases remainder : kind = .remainder
  · subst remainder
    exact cursor.reaches_skipRemaining
  · rw [read_eq_readWord phrase remainder]
    exact kind.reaches_readWord cursor

theorem decode_eq_ok_iff {kind : Kind} {cursor left : Cursor} {value : Value} :
    kind.decode cursor = (.ok value, left) ↔ kind.read cursor = (.ok value, left) := by
  unfold decode
  split
  · rename_i same
    rw [same]
  · rename_i same
    simp [same]

/-- A value that cannot be decoded leaves the cursor where it was. -/
theorem eq_of_decode_eq_error {kind : Kind} {cursor left : Cursor} {error : DecodeError}
    (failure : kind.decode cursor = (.error error, left)) : left = cursor := by
  unfold decode at failure
  split at failure
  · cases failure
  · rename_i stopped same
    have reached := kind.reaches_read cursor
    rw [same] at reached
    cases failure
    exact Cursor.moveTo_offset reached.line_eq

theorem reaches_of_decode_eq_ok {kind : Kind} {cursor left : Cursor} {value : Value}
    (success : kind.decode cursor = (.ok value, left)) : cursor.Reaches left := by
  have reached := kind.reaches_read cursor
  rwa [decode_eq_ok_iff.mp success] at reached

theorem reaches_decode (kind : Kind) (cursor : Cursor) :
    cursor.Reaches (kind.decode cursor).2 := by
  cases decoded : kind.decode cursor with
  | mk result left =>
      cases result with
      | ok value => exact reaches_of_decode_eq_ok decoded
      | error error =>
          rw [eq_of_decode_eq_error decoded]
          exact .refl cursor

end Argument.Kind

namespace Cursor

theorem notBlank_of_isQuote {char : Char} (quote : isQuote char) : isBlank char = false := by
  simp only [isQuote, Bool.or_eq_true, beq_iff_eq] at quote
  rcases quote with rfl | rfl <;> decide

theorem notQuote_of_isBlank {char : Char} (blank : isBlank char) : isQuote char = false := by
  cases quote : isQuote char with
  | false => rfl
  | true => exact absurd (blank.symm.trans (notBlank_of_isQuote quote)) (by decide)

/-- A quotation that has been read was written between its quotes. -/
theorem exists_written {quote : Char} {consumed rest : List Char} {value : String} {left : Cursor}
    (opened : isQuote quote)
    (success : readQuotation ⟨consumed, quote :: rest⟩ = (.ok value, left)) :
    ∃ form tail, Quotation.Written quote form value.toList ∧ rest = form ++ quote :: tail ∧
      left = ⟨consumed ++ (quote :: form ++ [quote]), tail⟩ := by
  simp only [readQuotation, opened, ↓reduceIte] at success
  cases result : (Quotation.read quote rest).result with
  | error fault => cases fault <;> simp [result] at success
  | ok text =>
      obtain ⟨form, written, split⟩ := Quotation.exists_written result
      simp only [result, Prod.mk.injEq, Except.ok.injEq] at success
      obtain ⟨rfl, rfl⟩ := success
      refine ⟨form, _, by simpa using written, split, ?_⟩
      have left := leave_append consumed (quote :: form ++ [quote])
        (Quotation.read quote rest).remainder
      rw [← left]
      congr 2
      simpa using split

theorem readQuotation_written {quote : Char} {form : List Char} {value : String}
    (opened : isQuote quote) (written : Quotation.Written quote form value.toList)
    (consumed tail : List Char) :
    readQuotation ⟨consumed, quote :: form ++ quote :: tail⟩ =
      (.ok value, ⟨consumed ++ (quote :: form ++ [quote]), tail⟩) := by
  have notBackslash : quote ≠ '\\' := by
    rintro rfl
    exact absurd opened (by decide)
  have left := leave_append consumed (quote :: form ++ [quote]) tail
  simp only [List.cons_append, List.append_assoc, List.nil_append] at left
  simp [readQuotation, opened, Quotation.read_written notBackslash written, left]

/-- No quotation starts at a boundary. -/
theorem any_isQuote_of_atBoundary {cursor : Cursor} (boundary : cursor.atBoundary) :
    cursor.peek?.any isQuote = false := by
  rcases cursor.atBoundary_iff.mp boundary with ended | goesOn
  · rw [peek?, cursor.atEnd_iff.mp ended]
    rfl
  · obtain ⟨blank, rest, starts, separates⟩ := cursor.atBlank_iff.mp goesOn
    rw [peek?, starts]
    exact notQuote_of_isBlank separates

/-- A phrase is read in the same way before all boundaries, wherever it stands. -/
theorem readPhrase_congr {consumed text rest otherConsumed other : List Char} {value : String}
    (success : readPhrase ⟨consumed, text ++ rest⟩ = (.ok value, ⟨consumed ++ text, rest⟩))
    (stops : (mk consumed rest).atBoundary) (otherStops : (mk otherConsumed other).atBoundary) :
    readPhrase ⟨otherConsumed, text ++ other⟩ = (.ok value, ⟨otherConsumed ++ text, other⟩) := by
  have samePeek : (mk otherConsumed (text ++ other)).peek?.any isQuote =
      (mk consumed (text ++ rest)).peek?.any isQuote := by
    cases text with
    | nil =>
        have unopened := any_isQuote_of_atBoundary otherStops
        exact unopened.trans (any_isQuote_of_atBoundary stops).symm
    | cons first text => rfl
  unfold readPhrase at success ⊢
  rw [samePeek]
  by_cases opened : (mk consumed (text ++ rest)).peek?.any isQuote
  · rw [if_pos opened] at success ⊢
    cases text with
    | nil =>
        rw [List.nil_append, any_isQuote_of_atBoundary stops] at opened
        cases opened
    | cons quote text =>
        have opened : isQuote quote := opened
        obtain ⟨form, tail, written, split, left⟩ := exists_written opened success
        obtain rfl : rest = tail := congrArg Cursor.remaining left
        have split : text ++ rest = (form ++ [quote]) ++ rest := by simpa using split
        obtain rfl : text = form ++ [quote] := List.append_cancel_right split
        simpa using readQuotation_written opened written otherConsumed other
  · rw [if_neg opened] at success ⊢
    simp only [Prod.mk.injEq, Except.ok.injEq] at success
    obtain ⟨sameWord, left⟩ := skipWord_congr success.2 otherStops
    rw [sameWord, left, success.1]

end Cursor

/-- All kinds but the remainder read in the same way before all boundaries, wherever they start. -/
theorem Argument.Kind.decode_congr {kind : Kind} {value : Value}
    {consumed text rest otherConsumed other : List Char} (notRemainder : kind ≠ .remainder)
    (success : kind.decode ⟨consumed, text ++ rest⟩ = (.ok value, ⟨consumed ++ text, rest⟩))
    (stops : (Cursor.mk consumed rest).atBoundary)
    (otherStops : (Cursor.mk otherConsumed other).atBoundary) :
    kind.decode ⟨otherConsumed, text ++ other⟩ = (.ok value, ⟨otherConsumed ++ text, other⟩) := by
  rw [decode_eq_ok_iff] at success ⊢
  by_cases phrase : kind = .phrase
  · subst phrase
    unfold read at success ⊢
    cases read : Cursor.readPhrase ⟨consumed, text ++ rest⟩ with
    | mk result left =>
        cases result with
        | error error => simp [read] at success
        | ok phrase =>
            simp only [read, Prod.mk.injEq, Except.ok.injEq] at success
            obtain ⟨rfl, rfl⟩ := success
            rw [Cursor.readPhrase_congr read stops otherStops]
  · rw [read_eq_readWord phrase notRemainder] at success ⊢
    unfold readWord at success ⊢
    cases value? : kind.ofWord (Cursor.mk consumed (text ++ rest)).word with
    | error fault => simp [value?] at success
    | ok word =>
        simp only [value?, Prod.mk.injEq, Except.ok.injEq] at success
        obtain ⟨sameWord, left⟩ := Cursor.skipWord_congr success.2 otherStops
        rw [sameWord, value?, left, success.1]

def Arguments.bindAny (arguments : Arguments) : Option (String × Value) → Arguments
  | none => arguments
  | some (name, value) => arguments.bind name value

namespace Segment

/-- A literal reads a word that is equal to it, and an argument what its kind decodes. -/
inductive Reads (cursor : Cursor) : Segment → Option (String × Value) → Cursor → Prop where
  | literal {text : String} (same : cursor.word = text.toList) :
      Reads cursor (.literal text) none cursor.skipWord
  | argument {name : String} {kind : Kind} {provider : Option Provider} {value : Value}
      {after : Cursor} (decoded : kind.decode cursor = (.ok value, after)) :
      Reads cursor (.argument name kind provider) (some (name, value)) after

/-- This is the fault in the text of an argument that cannot be decoded. -/
def fault? (cursor : Cursor) : Segment → Option DecodeError
  | .literal _ => none
  | .argument _ kind _ =>
      match (kind.decode cursor).1 with
      | .ok _ => none
      | .error error => some error

/-- A greedy segment reads all that remains of a line. -/
def isGreedy : Segment → Bool
  | .literal _ => false
  | .argument _ kind _ => kind.isGreedy

variable {cursor after otherAfter : Cursor} {segment : Segment}
  {binding otherBinding : Option (String × Value)}

namespace Reads

theorem unique (first : segment.Reads cursor binding after)
    (second : segment.Reads cursor otherBinding otherAfter) :
    binding = otherBinding ∧ after = otherAfter := by
  cases first with
  | literal =>
      cases second
      exact ⟨rfl, rfl⟩
  | argument decoded =>
      cases second with
      | argument otherDecoded =>
          rw [decoded] at otherDecoded
          cases otherDecoded
          exact ⟨rfl, rfl⟩

theorem reaches (reads : segment.Reads cursor binding after) : cursor.Reaches after := by
  cases reads with
  | literal => exact cursor.reaches_skipWord
  | argument decoded => exact Kind.reaches_of_decode_eq_ok decoded

theorem word_eq {text : String} (reads : (Segment.literal text).Reads cursor binding after) :
    cursor.word = text.toList := by
  cases reads with
  | literal same => exact same

/-- A segment that is not greedy reads in the same way before all boundaries, wherever it starts. -/
theorem before_boundary {consumed text rest otherConsumed other : List Char}
    (reads : segment.Reads ⟨consumed, text ++ rest⟩ binding ⟨consumed ++ text, rest⟩)
    (notGreedy : segment.isGreedy = false) (stops : (Cursor.mk consumed rest).atBoundary)
    (otherStops : (Cursor.mk otherConsumed other).atBoundary) :
    segment.Reads ⟨otherConsumed, text ++ other⟩ binding ⟨otherConsumed ++ text, other⟩ := by
  generalize left : Cursor.mk (consumed ++ text) rest = after at reads
  cases reads with
  | literal same =>
      obtain ⟨sameWord, sameLeft⟩ := Cursor.skipWord_congr left.symm otherStops
      rw [← sameLeft]
      exact .literal (sameWord.trans same)
  | argument decoded =>
      subst left
      refine .argument (Kind.decode_congr ?_ decoded stops otherStops)
      rintro rfl
      cases notGreedy

/-- What stops before the end of a line is not greedy. -/
theorem isGreedy_eq_false (reads : segment.Reads cursor binding after) (more : ¬ after.atEnd) :
    segment.isGreedy = false := by
  cases reads with
  | literal => rfl
  | @argument name kind provider value after decoded =>
      cases kind with
      | remainder =>
          obtain ⟨_, rfl⟩ := Prod.mk.inj (Kind.decode_eq_ok_iff.mp decoded)
          exact absurd (Cursor.atEnd_iff _ |>.mpr cursor.remaining_skipRemaining) more
      | _ => rfl

/-- What a segment reads before a blank does not depend on what stands behind the blank. -/
theorem congr {consumed text rest : List Char} {blank : Char} (separates : isBlank blank)
    (reads : segment.Reads ⟨consumed, text ++ blank :: rest⟩ binding
      ⟨consumed ++ text, blank :: rest⟩) (other : List Char) :
    segment.Reads ⟨consumed, text ++ blank :: other⟩ binding
      ⟨consumed ++ text, blank :: other⟩ := by
  have boundary (rest : List Char) : (Cursor.mk consumed (blank :: rest)).atBoundary :=
    (Cursor.atBoundary_iff _).mpr (.inr separates)
  exact reads.before_boundary (reads.isGreedy_eq_false (by simp [Cursor.atEnd])) (boundary rest)
    (boundary other)

end Reads

/-- An attempt reads up to a boundary or fails and changes nothing. -/
theorem attempt_cases (segment : Segment) (reading : Reading) :
    (∃ binding after, segment.Reads reading.cursor binding after ∧ after.atBoundary ∧
      segment.attempt reading =
        (.matched, ⟨after, reading.arguments.bindAny binding⟩)) ∨
    (∀ binding after, segment.Reads reading.cursor binding after → after.atBoundary = false) ∧
      segment.attempt reading = (.rejected (segment.fault? reading.cursor), reading) := by
  cases segment with
  | literal text =>
      have ends := reading.cursor.atBoundary_skipWord
      by_cases same : reading.cursor.word = text.toList
      · refine .inl ⟨none, _, .literal same, ends, ?_⟩
        simp [attempt, same, ends, Arguments.bindAny]
      · refine .inr ⟨?_, ?_⟩
        · rintro _ _ ⟨same'⟩
          exact absurd same' same
        · have back := Cursor.moveTo_offset reading.cursor.reaches_skipWord.line_eq
          simp [attempt, same, back, fault?]
  | argument name kind provider =>
      cases decoded : kind.decode reading.cursor with
      | mk result left =>
          cases result with
          | error error =>
              have back := Kind.eq_of_decode_eq_error decoded
              subst back
              refine .inr ⟨?_, ?_⟩
              · rintro _ _ ⟨⟩
                rename_i decoded'
                simp [decoded] at decoded'
              · simp [attempt, decoded, fault?, Cursor.moveTo_offset]
          | ok value =>
              cases ends : left.atBoundary with
              | true =>
                  refine .inl ⟨_, _, .argument decoded, ends, ?_⟩
                  simp [attempt, decoded, ends, Arguments.bindAny]
              | false =>
                  refine .inr ⟨?_, ?_⟩
                  · intro binding after reads
                    have same := (Reads.argument decoded).unique reads
                    rw [← same.2, ends]
                  · have line := (Kind.reaches_of_decode_eq_ok decoded).line_eq
                    simp [attempt, decoded, ends, fault?, Cursor.moveTo_offset line]

end Segment

end CommandShell
