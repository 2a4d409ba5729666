/-
This file shows that highlights foretell what becomes of a line. The first word of a line is the only
part with a colour, and it is marked as known exactly if the line is not turned away for its label.
-/

import CommandShell.Proofs.Concealment
import CommandShell.Proofs.Words
import CommandShell.Shell.Session
import Mathlib.Data.List.TakeWhile

namespace CommandShell

open Text

/-! ### The first word of a line -/

namespace Text

/-- The first word of a line stands behind blanks and in front of a boundary. -/
structure FirstWord (line blanks word behind : List Char) : Prop where
  line_eq : line = blanks ++ word ++ behind
  blank : ∀ char ∈ blanks, isBlank char
  isWord : isWord word
  stops : (Cursor.mk [] behind).atBoundary

/-- Blanks behind a text do not change its longest start without blanks. -/
theorem takeWhile_isSolid_append {blanks : List Char} (blank : ∀ char ∈ blanks, isBlank char)
    (text : List Char) : (text ++ blanks).takeWhile isSolid = text.takeWhile isSolid := by
  induction text with
  | nil =>
      cases blanks with
      | nil => rfl
      | cons first rest =>
          have separates := (List.forall_mem_cons.mp blank).1
          rw [List.nil_append, List.takeWhile_cons_of_neg (not_isSolid_of_isBlank separates),
            List.takeWhile_nil]
  | cons char rest inductionHypothesis =>
      rw [List.cons_append, List.takeWhile_cons, List.takeWhile_cons, inductionHypothesis]

theorem exists_firstWord {line : List Char} (solid : ∃ char ∈ line, isBlank char = false) :
    ∃ blanks word behind, FirstWord line blanks word behind := by
  let start : Cursor := ⟨[], line.dropWhile isBlank⟩
  have more : ¬ start.atEnd := by
    intro ended
    obtain ⟨char, member, notBlank⟩ := solid
    have blank := List.dropWhile_eq_nil_iff.mp ((Cursor.atEnd_iff start).mp ended) char member
    rw [notBlank] at blank
    cases blank
  have starts : start.atBlank = false := by
    have skipped := (Cursor.mk [] line).atBlank_skipBlanks
    rwa [Cursor.skipBlanks_eq] at skipped
  have stops := start.atBoundary_skipWord
  rw [Cursor.skipWord_eq] at stops
  refine ⟨line.takeWhile isBlank, start.word, start.remaining.dropWhile isSolid, ?_, ?_, ?_, stops⟩
  · rw [List.append_assoc, Cursor.word, List.takeWhile_append_dropWhile,
      List.takeWhile_append_dropWhile]
  · exact List.all_eq_true.mp List.all_takeWhile
  · have allSolid : start.word.all isSolid := List.all_takeWhile
    simpa [isWord, allSolid] using Cursor.word_ne_nil more starts

end Text

namespace Text.FirstWord

variable {line blanks word behind : List Char}

/-- All blanks at the start of a line stand before its first word. -/
theorem span_isBlank (first : FirstWord line blanks word behind) :
    line.takeWhile isBlank = blanks ∧ line.dropWhile isBlank = word ++ behind := by
  obtain ⟨rfl, blank, isWord, _⟩ := first
  have starts : (Cursor.mk [] (word ++ behind)).atBlank = false := by
    cases word with
    | nil => cases isWord
    | cons char rest => exact (Bool.not_eq_true' _).mp (solid_of_isWord isWord char List.mem_cons_self)
  have skipped := Cursor.skipBlanks_append blank starts
  rw [Cursor.skipBlanks_eq, ← List.append_assoc] at skipped
  exact ⟨congrArg Cursor.consumed skipped, congrArg Cursor.remaining skipped⟩

/-- The first word reaches up to the next blank. -/
theorem span_isSolid (first : FirstWord line blanks word behind) :
    (word ++ behind).takeWhile isSolid = word ∧ (word ++ behind).dropWhile isSolid = behind := by
  have solid := solid_of_isWord first.isWord
  have skipped := Cursor.skipWord_append solid first.stops
  rw [Cursor.skipWord_eq] at skipped
  exact ⟨Cursor.word_append solid first.stops, congrArg Cursor.remaining skipped⟩

/-- Without the blanks around it a line has its first word as its label. -/
theorem exists_labelled (first : FirstWord line blanks word behind) :
    ∃ after, Labelled (String.ofList (trim line)) (String.ofList word) after := by
  obtain ⟨rest, blank, whole⟩ := exists_trimStart_eq line
  have label : (trim line).takeWhile isSolid = word := by
    rw [← takeWhile_isSolid_append blank, ← whole, trimStart, first.span_isBlank.2]
    exact first.span_isSolid.1
  refine ⟨_, Labelled.iff_eq.mpr ⟨?_, rfl⟩⟩
  rw [Cursor.word, Cursor.ofLine, Cursor.ofList, String.toList_ofList, label]

end Text.FirstWord

/-! ### Turning lines away -/

/-- Some lines are not taken on, as their label names no command or a forbidden one. -/
def DispatchError.ConcernsLabel : DispatchError → Prop
  | .unknownCommand _ | .permissionDenied _ => True
  | _ => False

/-- Once a command has taken on a line, its label is no concern any more. -/
theorem Command.not_concernsLabel_of_admits {ω : Type} {command : Command ω} {sender : Sender}
    {line label : String} {behind : Cursor} {error : DispatchError}
    (admits : command.Admits sender line label behind)
    (failed : command.resolve sender line = .error error) : ¬ error.ConcernsLabel := by
  obtain ⟨outcome, answers⟩ := command.exists_answer sender line
  obtain rfl := (resolve_of_answers answers).symm.trans failed
  cases answers with
  | unknownCommand labelled unknown =>
      obtain ⟨rfl, _⟩ := labelled.unique admits.labelled
      exact absurd admits.known unknown
  | permissionDenied _ _ rejected => exact absurd rejected admits.usable
  | unknownArgument | incompleteCommand => exact id

namespace Registry

variable {ω : Type} {registry : Registry ω} {sender : Sender} {line label : String}
  {behind : Cursor}

/-- A registry turns a line away if it cannot be executed for the sake of its label. -/
def TurnsAway (registry : Registry ω) (sender : Sender) (line : String) : Prop :=
  ∃ error, registry.execute sender line = .error error ∧ error.ConcernsLabel

/-- A label is marked as known exactly if lines with this label are not turned away. -/
theorem Consistent.labelHighlight_eq_known_iff (consistent : registry.Consistent)
    (labelled : Labelled line label behind) :
    Shell.labelHighlight registry sender label = .known ↔ ¬ registry.TurnsAway sender line := by
  unfold Shell.labelHighlight TurnsAway
  cases found : registry.find? label with
  | none =>
      have free := consistent.find?_eq_none_iff.mp found
      have unknown := consistent.resolve_of_free labelled free sender
      simp [execute_eq_error_iff, unknown, DispatchError.ConcernsLabel]
  | some command =>
      obtain ⟨place, atPlace, named⟩ := consistent.find?_eq_some_iff.mp found
      have member : command ∈ registry.commands := List.mem_of_getElem? atPlace
      have owned := consistent.resolve_of_owner labelled member named sender
      cases usable : command.usableBy sender with
      | false =>
          have denied := Command.resolve_of_rejects labelled named
            (Command.rejects_iff.mpr usable)
          simp [execute_eq_error_iff, owned, denied, usable, DispatchError.ConcernsLabel]
      | true =>
          have admits : command.Admits sender line label behind :=
            ⟨labelled, named, Command.not_rejects_iff.mpr usable⟩
          simp only [Option.any_some, usable, ↓reduceIte, true_iff, not_exists, not_and,
            execute_eq_error_iff, owned]
          exact fun error failed => Command.not_concernsLabel_of_admits admits failed

end Registry

namespace Shell

/-! ### Sessions with any commands -/

/-- This is what becomes of a typed line where any commands are registered. The results of their
executors are given. -/
def outcomeOf {ω : Type} (registry : Registry ω) (sender : Sender) (result : ω → Except String Int)
    (line : String) : LineOutcome :=
  let trimmed := String.ofList (trim line.toList)
  if trimmed.isEmpty then .empty
  else if exitWords.contains trimmed then .exit
  else
    match registry.execute sender trimmed with
    | .error error => .failed (.dispatch error)
    | .ok outcome => .ofResult ((result outcome).mapError .command)

/-- A session handles its lines in this way with the standard commands. -/
theorem Session.handle_eq_outcomeOf {session : Session} {registry : Registry Outcome}
    (built : session.world.registry = .ok registry) (line : String) :
    (session.handle line).1 =
      outcomeOf registry session.sender (fun outcome => (outcome.perform ⟨[], session.world⟩).1)
        line := by
  unfold handle outcomeOf answer Shell.answer
  simp only [built]
  split
  · rfl
  · split
    · rfl
    · cases registry.execute session.sender (String.ofList (trim line.toList)) <;> rfl

/-- A line is turned away if it fails for the sake of its label. -/
def LineOutcome.IsTurnedAway (outcome : LineOutcome) : Prop :=
  ∃ error : DispatchError, outcome = .failed (.dispatch error) ∧ error.ConcernsLabel

variable {ω : Type} {registry : Registry ω} {sender : Sender} {line : String}

/-- A line that is neither blank nor an exit word is turned away if the registry does so. -/
theorem outcomeOf_isTurnedAway_iff (result : ω → Except String Int)
    (notBlank : String.ofList (trim line.toList) ≠ "")
    (goesOn : String.ofList (trim line.toList) ∉ exitWords) :
    (outcomeOf registry sender result line).IsTurnedAway ↔
      registry.TurnsAway sender (String.ofList (trim line.toList)) := by
  have nonempty : (String.ofList (trim line.toList)).isEmpty = false := by
    rwa [Bool.eq_false_iff, ne_eq, String.isEmpty_iff]
  have stays : exitWords.contains (String.ofList (trim line.toList)) = false := by
    rwa [Bool.eq_false_iff, ne_eq, List.contains_iff_mem]
  unfold outcomeOf LineOutcome.IsTurnedAway Registry.TurnsAway
  simp only [nonempty, stays, Bool.false_eq_true, ↓reduceIte]
  cases executed : registry.execute sender (String.ofList (trim line.toList)) with
  | error error => simp
  | ok outcome =>
      -- Executors fail with messages of their own.
      refine iff_of_false ?_ (by simp)
      rintro ⟨error, failed, _⟩
      dsimp only at failed
      cases ended : result outcome <;> rw [ended] at failed <;> cases failed

/-! ### The parts of a line -/

/-- These are the parts of a line one behind the other. -/
def textOf (parts : List (Highlight × String)) : String :=
  String.join (parts.map Prod.snd)

/-- Exactly one of the parts has a colour, and it is the first word of the line. -/
def ColorsFirstWord (parts : List (Highlight × String)) (line : List Char) (color : Highlight) :
    Prop :=
  ∃ before word after, parts = before ++ (color, word) :: after ∧ color ≠ .plain ∧
    (∀ part ∈ before ++ after, part.1 = .plain) ∧
      FirstWord line (textOf before).toList word.toList (textOf after).toList

/-- Parts without text can be left out. -/
theorem textOf_filter (parts : List (Highlight × String)) :
    textOf (parts.filter fun part => !part.2.isEmpty) = textOf parts := by
  induction parts with
  | nil => rfl
  | cons part rest inductionHypothesis =>
      have rejoined : textOf (part :: rest) = part.2 ++ textOf rest := String.join_cons
      cases empty : part.2.isEmpty with
      | true =>
          rw [List.filter_cons_of_neg (by simp [empty]), inductionHypothesis, rejoined,
            String.isEmpty_iff.mp empty, String.empty_append]
      | false =>
          rw [List.filter_cons_of_pos (by simp [empty]), rejoined, ← inductionHypothesis]
          exact String.join_cons

theorem textOf_singleton (part : Highlight × String) : textOf [part] = part.2 :=
  String.join_cons.trans String.append_empty

theorem textOf_highlight (enabled : Bool) :
    textOf (highlight registry sender enabled line) = line := by
  cases enabled with
  | false => exact textOf_singleton (.plain, line)
  | true =>
      rw [highlight, if_pos rfl, textOf_filter, ← String.toList_inj]
      simp [textOf, List.takeWhile_append_dropWhile]

theorem labelHighlight_ne_plain (label : String) :
    labelHighlight registry sender label ≠ .plain := by
  unfold labelHighlight
  split <;> decide

theorem highlight_of_firstWord {blanks word behind : List Char}
    (first : FirstWord line.toList blanks word behind) :
    highlight registry sender true line =
      [(.plain, String.ofList blanks),
        (labelHighlight registry sender (String.ofList word), String.ofList word),
        (.plain, String.ofList behind)].filter fun part => !part.2.isEmpty := by
  obtain ⟨takenBlanks, rest⟩ := first.span_isBlank
  obtain ⟨takenWord, left⟩ := first.span_isSolid
  unfold highlight
  simp only [↓reduceIte, takenBlanks, rest, takenWord, left]

theorem colorsFirstWord_highlight {blanks word behind : List Char}
    (first : FirstWord line.toList blanks word behind) :
    ColorsFirstWord (highlight registry sender true line) line.toList
      (labelHighlight registry sender (String.ofList word)) := by
  let shown : Highlight × String → Bool := fun part => !part.2.isEmpty
  let around (text : List Char) := [(Highlight.plain, String.ofList text)].filter shown
  have plain : ∀ text, ∀ part ∈ around text, part.1 = .plain := by
    intro text part member
    rw [List.mem_singleton.mp (List.mem_filter.mp member).1]
  have textAround : ∀ text, (textOf (around text)).toList = text := by
    intro text
    rw [textOf_filter, textOf_singleton, String.toList_ofList]
  have colored : shown (labelHighlight registry sender (String.ofList word), String.ofList word) := by
    simpa [shown, String.ofList_eq_empty_iff] using ne_nil_of_isWord first.isWord
  refine ⟨around blanks, String.ofList word, around behind, ?_, labelHighlight_ne_plain _, ?_, ?_⟩
  · rw [highlight_of_firstWord first, ← List.singleton_append, List.filter_append]
    exact congrArg (around blanks ++ ·) (List.filter_cons_of_pos colored)
  · intro part member
    rcases List.mem_append.mp member with front | back
    · exact plain blanks part front
    · exact plain behind part back
  · rwa [textAround, textAround, String.toList_ofList]

/-- The parts of a line make up the line, with highlights or without. If the line is neither blank nor
an exit word, one of them has a colour: the first word. It is marked as known exactly if the line is
not turned away as an unknown or a forbidden command, and sessions handle their lines in this way. -/
theorem highlight_foretells (reachable : registry.Reachable) (sender : Sender)
    (result : ω → Except String Int) (line : String) :
    (∀ enabled, textOf (highlight registry sender enabled line) = line) ∧
    ((∃ char ∈ line.toList, isBlank char = false) →
      String.ofList (trim line.toList) ∉ exitWords →
      ∃ color, ColorsFirstWord (highlight registry sender true line) line.toList color ∧
        (color = .known ↔ ¬ (outcomeOf registry sender result line).IsTurnedAway)) ∧
    ∀ (session : Session) (standard : Registry Outcome),
      session.world.registry = .ok standard → (session.handle line).1 =
        outcomeOf standard session.sender
          (fun outcome => (outcome.perform ⟨[], session.world⟩).1) line := by
  refine ⟨textOf_highlight, fun notBlank goesOn => ?_,
    fun _ _ built => Session.handle_eq_outcomeOf built line⟩
  obtain ⟨blanks, word, behind, first⟩ := exists_firstWord notBlank
  obtain ⟨after, labelled⟩ := first.exists_labelled
  have nonempty : String.ofList (trim line.toList) ≠ "" := by
    intro nothing
    have whole := labelled.line_eq
    rw [nothing, Cursor.line, labelled.read, String.toList_ofList, String.toList_empty,
      List.append_eq_nil_iff] at whole
    exact ne_nil_of_isWord first.isWord whole.1
  refine ⟨_, colorsFirstWord_highlight first, ?_⟩
  rw [outcomeOf_isTurnedAway_iff result nonempty goesOn]
  exact reachable.consistent.labelHighlight_eq_known_iff labelled

/-- A forbidden label is marked as unknown. A label whose line fails behind it is known. -/
theorem highlight_foretells_guest :
    let registry := (Registry.empty : Registry String).registerAll [Registry.stop, Registry.tell]
    let guest : Sender := ⟨"guest", [], false⟩
    let result : String → Except String Int := fun _ => .ok 1
    registry.Reachable ∧
      (∃ char ∈ "\u3000halt now ".toList, isBlank char = false) ∧
      String.ofList (trim "\u3000halt now ".toList) ∉ exitWords ∧
      highlight registry guest true "\u3000halt now " =
        [(.plain, "\u3000"), (.unknown, "halt"), (.plain, " now ")] ∧
      (∃ color, ColorsFirstWord (highlight registry guest true "\u3000halt now ")
          "\u3000halt now ".toList color ∧
        (color = .known ↔ ¬ (outcomeOf registry guest result "\u3000halt now ").IsTurnedAway)) ∧
      outcomeOf registry guest result "\u3000halt now " =
        .failed (.dispatch (.permissionDenied "stop")) ∧
      highlight registry guest true "msg now" = [(.known, "msg"), (.plain, " now")] ∧
      outcomeOf registry guest result "msg now" =
        .failed (.dispatch (.unknownArgument 4 "msg now" none)) := by
  intro registry guest result
  have reachable : registry.Reachable := Registry.Reachable.empty.registerAll _
  have solid : ∃ char ∈ "\u3000halt now ".toList, isBlank char = false :=
    ⟨'h', by decide, by decide⟩
  have goesOn : String.ofList (trim "\u3000halt now ".toList) ∉ exitWords := by decide +kernel
  have colored := (highlight_foretells reachable guest result "\u3000halt now ").2.1 solid goesOn
  exact ⟨reachable, solid, goesOn, by decide +kernel, colored, by decide +kernel,
    by decide +kernel, by decide +kernel⟩

end Shell

end CommandShell
