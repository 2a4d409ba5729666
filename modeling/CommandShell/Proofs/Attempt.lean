/-
This file says what an attempt to match a segment comes to. It is all or nothing: it either changes
nothing, or it reads on to the next boundary and gives no argument but its own a value.
-/

import CommandShell.Proofs.Grammar

namespace CommandShell

open Argument Text

/-! ### Where reading stops -/

namespace Cursor

variable {cursor after : Cursor}

/-- The quotation at a cursor runs on if its closing quote is directly followed by a character that
is no blank. -/
def RunsOn (cursor : Cursor) : Prop :=
  ∃ quote text after char, isQuote quote ∧ cursor.Quotes quote text after ∧
    after.peek? = some char ∧ isSolid char

/-- A phrase that has been read stops at no boundary exactly if it is a quotation that runs on. -/
theorem atBoundary_of_readPhrase {text : String} (read : cursor.readPhrase = (.ok text, after)) :
    after.atBoundary = false ↔ cursor.RunsOn := by
  unfold readPhrase at read
  split at read
  · rename_i opened
    obtain ⟨quote, starts, opened⟩ := (Option.any_eq_true _ _).mp opened
    have quotes := (readQuotation_eq_ok_iff opened starts).mp read
    rw [atBoundary_eq_false_iff]
    constructor
    · rintro ⟨char, next, solid⟩
      exact ⟨quote, text, after, char, opened, quotes, next, solid⟩
    · rintro ⟨other, otherText, otherAfter, char, otherOpened, otherQuotes, next, solid⟩
      -- A quotation is read in one way only.
      obtain rfl : quote = other := Option.some.inj (starts.symm.trans otherQuotes.peek?_eq)
      have same := read.symm.trans (readQuotation_of_quotes otherOpened otherQuotes)
      obtain rfl : after = otherAfter := congrArg Prod.snd same
      exact ⟨char, next, solid⟩
  · rename_i unopened
    obtain ⟨_, rfl⟩ := Prod.mk.inj read
    constructor
    · intro stops
      rw [cursor.atBoundary_skipWord] at stops
      cases stops
    · rintro ⟨quote, _, _, _, opened, quotes, _⟩
      rw [quotes.peek?_eq] at unopened
      exact absurd opened unopened

end Cursor

namespace Argument.Kind

variable {kind : Kind} {cursor left : Cursor} {value : Value}

/-- Words and remainders are read up to a boundary. -/
theorem atBoundary_of_decode (notPhrase : kind ≠ .phrase)
    (decoded : kind.decode cursor = (.ok value, left)) : left.atBoundary := by
  rw [decode_eq_ok_iff] at decoded
  by_cases remainder : kind = .remainder
  · subst remainder
    obtain ⟨_, rfl⟩ := Prod.mk.inj decoded
    refine (Cursor.atBoundary_iff _).mpr (.inl ?_)
    exact (Cursor.atEnd_iff _).mpr cursor.remaining_skipRemaining
  · rw [read_eq_readWord notPhrase remainder, readWord] at decoded
    split at decoded
    · obtain ⟨_, rfl⟩ := Prod.mk.inj decoded
      exact cursor.atBoundary_skipWord
    · cases decoded

/-- Only a quotation can be read up to a place that is no boundary. -/
theorem atBoundary_eq_false_iff (decoded : kind.decode cursor = (.ok value, left)) :
    left.atBoundary = false ↔ kind = .phrase ∧ cursor.RunsOn := by
  by_cases phrase : kind = .phrase
  · subst phrase
    rw [decode_eq_ok_iff, read] at decoded
    split at decoded
    · rename_i read
      obtain ⟨_, rfl⟩ := Prod.mk.inj decoded
      simpa using Cursor.atBoundary_of_readPhrase read
    · cases decoded
  · simp [phrase, atBoundary_of_decode phrase decoded]

end Argument.Kind

/-! ### What an attempt comes to -/

namespace Segment

/-- A match of a literal leaves the arguments as they are. A match of an argument gives it the value
that its text decodes to, in place of any value it had, and all others keep theirs. -/
inductive Updates (before after : Reading) : Segment → Prop where
  | literal {text : String} (same : after.arguments = before.arguments) :
      Updates before after (.literal text)
  | argument {name : String} {kind : Kind} {provider : Option Provider} {value : Value}
      (decoded : kind.decode before.cursor = (.ok value, after.cursor))
      (own : after.arguments.lookup name = some value)
      (others : ∀ other, other ≠ name →
        after.arguments.lookup other = before.arguments.lookup other) :
      Updates before after (.argument name kind provider)

/-- The text at the cursor is no value of the kind of an argument, for the reason given. -/
def FailsToDecode (cursor : Cursor) (error : DecodeError) : Segment → Prop
  | .literal _ => False
  | .argument _ kind _ => (kind.decode cursor).1 = .error error

variable {segment : Segment} {cursor after : Cursor} {binding : Option (String × Value)}

theorem fault?_eq_some_iff {error : DecodeError} :
    segment.fault? cursor = some error ↔ segment.FailsToDecode cursor error := by
  cases segment with
  | literal text => simp [fault?, FailsToDecode]
  | argument name kind provider =>
      unfold fault? FailsToDecode
      dsimp only
      cases (kind.decode cursor).1 <;> simp

namespace Reads

theorem updates {reading : Reading} (reads : segment.Reads reading.cursor binding after) :
    segment.Updates reading ⟨after, reading.arguments.bindAny binding⟩ := by
  cases reads with
  | literal same => exact .literal rfl
  | argument decoded =>
      exact .argument decoded (reading.arguments.lookup_bind_self _ _) fun other different =>
        reading.arguments.lookup_bind_of_ne different _

theorem not_failsToDecode (reads : segment.Reads cursor binding after) (error : DecodeError) :
    ¬ segment.FailsToDecode cursor error := by
  cases reads with
  | literal same => exact id
  | argument decoded => simp [FailsToDecode, decoded]

end Reads

/-! ### Which attempts succeed -/

variable {reading : Reading}

theorem attempt_matched_iff : (segment.attempt reading).1 = .matched ↔
    ∃ binding after, segment.Reads reading.cursor binding after ∧ after.atBoundary := by
  rcases segment.attempt_cases reading with
    ⟨binding, after, reads, ends, matched⟩ | ⟨stops, rejected⟩
  · rw [matched]
    exact ⟨fun _ => ⟨binding, after, reads, ends⟩, fun _ => rfl⟩
  · rw [rejected]
    refine ⟨nofun, ?_⟩
    rintro ⟨binding, after, reads, ends⟩
    rw [stops binding after reads] at ends
    cases ends

theorem attempt_rejected_iff : (∃ cause, (segment.attempt reading).1 = .rejected cause) ↔
    (segment.attempt reading).1 ≠ .matched := by
  cases (segment.attempt reading).1 <;> simp

/-- A literal is matched by the word that is equal to it. -/
theorem attempt_literal_iff (text : String) :
    ((Segment.literal text).attempt reading).1 = .matched ↔
      reading.cursor.word = text.toList := by
  rw [attempt_matched_iff]
  constructor
  · rintro ⟨binding, after, reads, _⟩
    exact reads.word_eq
  · intro same
    exact ⟨_, _, .literal same, reading.cursor.atBoundary_skipWord⟩

/-- An argument that can be decoded is rejected because of a quotation that runs on. -/
theorem attempt_argument_iff {name : String} {kind : Kind} {provider : Option Provider}
    {value : Value} {left : Cursor} (decoded : kind.decode reading.cursor = (.ok value, left)) :
    (∃ cause, ((Segment.argument name kind provider).attempt reading).1 = .rejected cause) ↔
      kind = .phrase ∧ reading.cursor.RunsOn := by
  have reads : (Segment.argument name kind provider).Reads reading.cursor
      (some (name, value)) left := .argument decoded
  rw [attempt_rejected_iff, Ne, attempt_matched_iff, ← Kind.atBoundary_eq_false_iff decoded]
  constructor
  · intro refused
    exact eq_false_of_ne_true fun ends => refused ⟨_, _, reads, ends⟩
  · rintro stops ⟨binding, after, otherReads, ends⟩
    obtain ⟨_, rfl⟩ := reads.unique otherReads
    rw [stops] at ends
    cases ends

theorem attempt_fault_iff {error : DecodeError} :
    (segment.attempt reading).1 = .rejected (some error) ↔
      segment.FailsToDecode reading.cursor error := by
  rcases segment.attempt_cases reading with ⟨binding, after, reads, _, matched⟩ | ⟨_, rejected⟩
  · rw [matched]
    exact ⟨nofun, fun fails => absurd fails (reads.not_failsToDecode error)⟩
  · rw [rejected, Match.rejected.injEq, fault?_eq_some_iff]

/-- An attempt at a character that is no blank either is rejected and changes nothing, or reads on
to a blank or to the end of the line and changes no argument but its own. It is rejected for a fault
exactly if the argument cannot be decoded, and an argument that can be decoded is rejected exactly
if it is a quotation that runs on. -/
theorem attempt_atomic (segment : Segment) {char : Char}
    (next : reading.cursor.peek? = some char) (solid : isSolid char) :
    ((∃ cause, segment.attempt reading = (.rejected cause, reading)) ∨
      ∃ after, segment.attempt reading = (.matched, after) ∧
        reading.cursor.Reaches after.cursor ∧ reading.cursor.offset < after.cursor.offset ∧
        after.cursor.atBoundary ∧ segment.Updates reading after) ∧
    (∀ error, (segment.attempt reading).1 = .rejected (some error) ↔
      segment.FailsToDecode reading.cursor error) ∧
    (∀ text, ((Segment.literal text).attempt reading).1 = .matched ↔
      reading.cursor.word = text.toList) ∧
    ∀ name kind provider value left, kind.decode reading.cursor = (.ok value, left) →
      ((∃ cause, ((Segment.argument name kind provider).attempt reading).1 = .rejected cause) ↔
        kind = .phrase ∧ reading.cursor.RunsOn) := by
  refine ⟨?_, fun _ => attempt_fault_iff, attempt_literal_iff,
    fun _ _ _ _ _ => attempt_argument_iff⟩
  rcases segment.attempt_cases reading with ⟨binding, after, reads, ends, matched⟩ | ⟨_, rejected⟩
  · refine .inr ⟨_, matched, reads.reaches, reads.reaches.offset_lt ?_, ends, reads.updates⟩
    -- The cursor has left its place, which is no boundary.
    rintro rfl
    rw [(Cursor.atBoundary_eq_false_iff _).mpr ⟨char, next, solid⟩] at ends
    cases ends
  · exact .inl ⟨_, rejected⟩

/-- A quotation of a letter of two bytes runs on, so that the value before is kept. -/
theorem attempt_atomic_running_on :
    let reading : Reading := ⟨⟨"sé ".toList, "\"ñ\"! x".toList⟩, [("text", .text "b")]⟩
    reading.cursor.peek? = some '\x22' ∧ isSolid '\x22' ∧
      (Segment.argument "text" .phrase none).attempt reading = (.rejected none, reading) := by
  intro reading
  have next : reading.cursor.peek? = some '\x22' := rfl
  have decoded : Kind.phrase.decode reading.cursor =
      (.ok (.text "ñ"), ⟨"sé \"ñ\"".toList, "! x".toList⟩) := rfl
  have quotes : reading.cursor.Quotes '\x22' "ñ" ⟨"sé \"ñ\"".toList, "! x".toList⟩ :=
    ⟨['ñ'], "! x".toList, .plain (by decide) (by decide) .nil, rfl, rfl⟩
  obtain ⟨outcome, fault, _, quoted⟩ :=
    attempt_atomic (.argument "text" .phrase none) next (by decide)
  obtain ⟨_, rejected⟩ := (quoted "text" .phrase none _ _ decoded).mpr
    ⟨rfl, _, _, _, '!', rfl, quotes, rfl, by decide⟩
  refine ⟨next, by decide, ?_⟩
  rcases outcome with ⟨cause, unchanged⟩ | ⟨after, matched, _⟩
  · cases cause with
    | none => exact unchanged
    | some error =>
        have fails := (fault error).mp (congrArg Prod.fst unchanged)
        simp [FailsToDecode, decoded] at fails
  · rw [matched] at rejected
    cases rejected

end Segment

end CommandShell
