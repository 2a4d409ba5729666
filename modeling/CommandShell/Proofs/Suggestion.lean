/-
This file says what is suggested where no tree has providers of its own. Each suggestion replaces
the text behind the place of completion by a word that the next part of the line reads.
-/

import CommandShell.Node.Soundness
import CommandShell.Proofs.Offer
import CommandShell.Proofs.Reading

namespace CommandShell

open Argument Text

/-- A span divides a line into its own text and the parts around it. Offsets past the end of the
line stand for its end. -/
structure Span.Divides (span : Span) (line before covered after : List Char) : Prop where
  line_eq : line = before ++ covered ++ after
  start : min span.start (byteLength line) = byteLength before
  stop : min span.stop (byteLength line) = byteLength (before ++ covered)

/-- What stands in front of the span of a suggestion and behind it is kept. -/
theorem Suggestion.applyTo_of_divides {suggestion : Suggestion}
    {line before replaced after : List Char}
    (divides : suggestion.span.Divides line before replaced after) :
    suggestion.applyTo line = before ++ suggestion.text.toList ++ after := by
  obtain ⟨line_eq, start, stop⟩ := divides
  have atStart := cutAt?_byteLength before (replaced ++ after)
  have atStop := cutAt?_byteLength (before ++ replaced) after
  rw [← List.append_assoc, ← line_eq] at atStart
  rw [← line_eq] at atStop
  rw [applyTo, start, stop, atStart, atStop]
  rfl

theorem Suggestion.applyTo_append {suggestion : Suggestion} {before replaced : List Char}
    (start : suggestion.span.start = byteLength before)
    (stop : suggestion.span.stop = byteLength (before ++ replaced)) (after : List Char) :
    suggestion.applyTo (before ++ replaced ++ after) =
      before ++ suggestion.text.toList ++ after := by
  apply applyTo_of_divides
  constructor
  · rfl
  · simp only [start, byteLength_append]
    omega
  · simp only [stop, byteLength_append]
    omega

/-- A text in place of the whole line is also what replacing the span gives. -/
theorem Suggestion.apply_eq (suggestion : Suggestion) (line : String) :
    suggestion.apply line = String.ofList (suggestion.applyTo line.toList) := by
  unfold apply
  split
  · rename_i whole
    rw [Bool.and_eq_true, decide_eq_true_eq, decide_eq_true_eq] at whole
    have divides : suggestion.span.Divides line.toList [] line.toList [] := by
      constructor
      · simp
      · simp [whole.1]
      · simp [Nat.min_eq_right whole.2]
    rw [applyTo_of_divides divides]
    simp
  · rfl

/-- A suggestion for all that stands behind a place replaces it by its text. -/
theorem Suggestion.applyTo_of_rest {suggestion : Suggestion} {place : Cursor}
    (span : suggestion.span = place.rest) :
    suggestion.applyTo place.line = place.consumed ++ suggestion.text.toList := by
  have applied := applyTo_append (congrArg Span.start span) (congrArg Span.stop span) []
  rwa [List.append_nil, List.append_nil] at applied

/-- A suggestion for a whole line is the new line. -/
theorem Suggestion.apply_of_whole {suggestion : Suggestion} {line : String}
    (span : suggestion.span = (Cursor.ofLine line).rest) :
    suggestion.apply line = suggestion.text := by
  have applied := applyTo_of_rest span
  have whole : (Cursor.ofLine line).line = line.toList := rfl
  have nothing : (Cursor.ofLine line).consumed = [] := rfl
  rw [whole, nothing, List.nil_append] at applied
  rw [Suggestion.apply_eq, applied, String.ofList_toList]

/-! ### Words that segments read -/

namespace Segment

/-- A segment completes a line with a word if it reads the word to the end of the line. -/
structure Completes (segment : Segment) (word : List Char) : Prop where
  isWord : isWord word
  reads : ∀ consumed, ∃ binding,
    segment.Reads ⟨consumed, word⟩ binding ⟨consumed ++ word, []⟩

def provider? : Segment → Option Provider
  | .literal _ => none
  | .argument _ _ provider => provider

theorem Completes.atBlank {segment : Segment} {word : List Char}
    (completes : segment.Completes word) (consumed : List Char) :
    (Cursor.mk consumed word).atBlank = false :=
  Cursor.atBlank_of_solid (solid_of_isWord completes.isWord)

theorem literal_completes {text : String} {bound : List String} {isLast : Bool}
    (sound : (literal text).violation? bound isLast = none) :
    (literal text).Completes text.toList := by
  have isWord : isWord text.toList := by simpa [violation?] using sound
  refine ⟨isWord, fun consumed => ⟨none, ?_⟩⟩
  obtain ⟨same, left⟩ := Cursor.skipWord_of_isWord consumed isWord
  rw [← left]
  exact .literal same

theorem boolean_completes {name : String} {provider : Option Provider} {text : String}
    (member : text ∈ ["true", "false"]) :
    (argument name .boolean provider).Completes text.toList := by
  have either : text = "true" ∨ text = "false" := by simpa using member
  have isWord : isWord text.toList := by rcases either with rfl | rfl <;> decide
  have isBoolean : ∃ value, readBoolean text.toList = .ok value := by
    rcases either with rfl | rfl
    · exact ⟨true, rfl⟩
    · exact ⟨false, rfl⟩
  obtain ⟨value, isBoolean⟩ := isBoolean
  have decoded : Kind.boolean.ofWord text.toList = .ok (.boolean value) := by
    rw [Kind.ofWord, isBoolean]
    rfl
  refine ⟨isWord, fun consumed => ⟨some (name, .boolean value), ?_⟩⟩
  obtain ⟨same, left⟩ := Cursor.skipWord_of_isWord consumed isWord
  refine .argument (Kind.decode_eq_ok_iff.mpr ?_)
  rw [Kind.read_eq_readWord (by decide) (by decide), Kind.readWord, same, left, decoded]

/-- A segment of a sound tree without a provider offers only words that it reads. -/
theorem completes_of_offers {segment : Segment} {bound : List String} {isLast : Bool}
    {context : Context} {place : Cursor} {batch : Batch} {suggestion : Suggestion}
    (sound : segment.violation? bound isLast = none) (intrinsic : segment.provider? = none)
    (offers : segment.Offers context place batch) (member : suggestion ∈ batch.items) :
    suggestion.span = place.rest ∧ segment.Completes suggestion.text.toList := by
  cases offers with
  | literal continues =>
      obtain ⟨text, _, _, span⟩ := (continues.mem_iff suggestion).mp member
      rw [List.mem_singleton.mp text]
      exact ⟨span, literal_completes sound⟩
  | boolean continues =>
      obtain ⟨text, _, _, span⟩ := (continues.mem_iff suggestion).mp member
      exact ⟨span, boolean_completes text⟩
  | nothing _ continues =>
      obtain ⟨text, _⟩ := (continues.mem_iff suggestion).mp member
      cases text
  | provided => cases intrinsic

end Segment

end CommandShell
