/-
This file says which hint a line gets. Accepting it leads to what the only suggestion makes of the
line, or else to the newest line of the history that goes on from it. A hint can also be accepted
word by word.
-/

import CommandShell.Proofs.Replacement
import CommandShell.Proofs.Words
import CommandShell.Shell.Hint
import CommandShell.Shell.History
import Mathlib.Data.List.TakeWhile

namespace CommandShell

open Text

/-- A text is cut at its boundaries only. -/
theorem Text.cutAt?_eq_some_iff {offset : Nat} {text before after : List Char} :
    cutAt? offset text = some (before, after) ↔
      text = before ++ after ∧ offset = byteLength before := by
  constructor
  · intro split
    rw [cutAt?, Option.ite_none_right_eq_some, Option.some.injEq] at split
    obtain ⟨atOffset, same⟩ := split
    rw [same] at atOffset
    exact ⟨by rw [← cut_append offset text, same], atOffset.symm⟩
  · rintro ⟨rfl, rfl⟩
    exact cutAt?_byteLength before after

/-- A suggestion keeps the end of a line that it replaces, and adds a text to it. -/
def Suggestion.Adds (suggestion : Suggestion) (line more : List Char) : Prop :=
  ∃ kept typed, line = kept ++ typed ∧ suggestion.span.start = byteLength kept ∧
    suggestion.text.toList = typed ++ more ∧ more ≠ []

theorem Suggestion.Adds.apply_eq {suggestion : Suggestion} {line : String} {more : List Char}
    (adds : suggestion.Adds line.toList more) (ends : suggestion.span.Ends line.toList) :
    suggestion.apply line = line ++ String.ofList more := by
  obtain ⟨kept, typed, split, start, text, _⟩ := adds
  have applied := applyTo_append start (split ▸ ends.1) []
  rw [List.append_nil, List.append_nil, ← split, text, ← List.append_assoc, ← split] at applied
  rw [Suggestion.apply_eq, applied, String.ofList_append, String.ofList_toList]

namespace Shell

/-- This is the newest line of a history that starts with a text. -/
structure History.IsNewest (history : History) (start : List Char) (found : String) : Prop where
  starts : start <+: found.toList
  newest : ∃ newer older, history.lines = newer ++ found :: older ∧
    ∀ other ∈ newer, ¬ start <+: other.toList

/-- A search of the history finds the newest line that starts with a text, and nothing else. The
hinter relies on no more than this. -/
def History.IsSearchedBy (history : History) (search : List Char → Option String) : Prop :=
  ∀ start found, search start = some found ↔ history.IsNewest start found

theorem History.isSearchedBy_search? (history : History) :
    history.IsSearchedBy history.search? := by
  intro start found
  simp only [search?, List.find?_eq_some_iff_append, List.isPrefixOf_iff_prefix, Bool.not_eq_true',
    Bool.eq_false_iff, ne_eq]
  exact ⟨fun ⟨starts, newest⟩ => ⟨starts, newest⟩, fun ⟨starts, newest⟩ => ⟨starts, newest⟩⟩

/-! ### Both sources of hints -/

theorem extension?_eq_some_iff {start text more : List Char} :
    extension? start text = some more ↔ text = start ++ more ∧ more ≠ [] := by
  rw [extension?, Option.ite_none_right_eq_some, Bool.and_eq_true, List.isPrefixOf_iff_prefix,
    decide_eq_true_eq]
  constructor
  · rintro ⟨⟨⟨rest, rfl⟩, longer⟩, same⟩
    rw [List.drop_left, Option.some.injEq] at same
    subst same
    refine ⟨rfl, fun nothing => ?_⟩
    simp [nothing] at longer
  · rintro ⟨rfl, nonempty⟩
    have longer : 0 < more.length := List.length_pos_iff.mpr nonempty
    exact ⟨⟨List.prefix_append _ _, by rw [List.length_append]; omega⟩, by rw [List.drop_left]⟩

variable {ω : Type} {registry : Registry ω} {sender : Sender} {history : History}
  {search : List Char → Option String} {line : String} {offset : Nat} {more : List Char}

theorem suggestionHint?_eq_some_iff :
    suggestionHint? registry sender line = some more ↔
      ∃ suggestion, (registry.suggestions sender line).items = [suggestion] ∧
        suggestion.Adds line.toList more := by
  unfold suggestionHint?
  split
  · rename_i suggestion only
    simp only [Option.bind_eq_bind, Option.bind_eq_some_iff, Prod.exists, cutAt?_eq_some_iff,
      extension?_eq_some_iff, and_assoc]
    constructor
    · rintro ⟨kept, typed, adds⟩
      exact ⟨suggestion, only, kept, typed, adds⟩
    · rintro ⟨other, same, adds⟩
      obtain rfl : suggestion = other := by simpa [only] using same
      exact adds
  · rename_i several
    refine iff_of_false (fun found => nomatch found) ?_
    rintro ⟨suggestion, only, _⟩
    exact several suggestion only

theorem historyHint?_eq_some_iff (searched : history.IsSearchedBy search) :
    historyHint? search line = some more ↔
      ∃ found, history.IsNewest line.toList found ∧ found.toList = line.toList ++ more ∧
        more ≠ [] := by
  simp only [historyHint?, Option.bind_eq_bind, Option.bind_eq_some_iff, searched _ _,
    extension?_eq_some_iff]

/-! ### Hints -/

/-- A hint is given at the end of a line that is not blank. -/
def Awaits (line : String) (offset : Nat) : Prop :=
  offset = byteLength line.toList ∧ ¬ ∀ char ∈ line.toList, isBlank char

/-- There is a single suggestion, and it adds something to the line. -/
def IsCompleted (registry : Registry ω) (sender : Sender) (line : String) : Prop :=
  ∃ suggestion more, (registry.suggestions sender line).items = [suggestion] ∧
    suggestion.Adds line.toList more

/-- A line has a hint, which may be empty. -/
inductive Hints (registry : Registry ω) (sender : Sender) (history : History) (line : String)
    (offset : Nat) : String → Prop where
  | unawaited (unawaited : ¬ Awaits line offset) : Hints registry sender history line offset ""
  | completion {suggestion : Suggestion} {more : List Char} {hint : String}
      (awaits : Awaits line offset)
      (only : (registry.suggestions sender line).items = [suggestion])
      (adds : suggestion.Adds line.toList more)
      (accepted : line ++ hint = suggestion.apply line) :
      Hints registry sender history line offset hint
  | recollection {found hint : String} (awaits : Awaits line offset)
      (uncompleted : ¬ IsCompleted registry sender line)
      (newest : history.IsNewest line.toList found) (longer : line.length < found.length)
      (accepted : line ++ hint = found) : Hints registry sender history line offset hint
  | nothing (awaits : Awaits line offset) (uncompleted : ¬ IsCompleted registry sender line)
      (unrecalled : ∀ found, history.IsNewest line.toList found → ¬ line.length < found.length) :
      Hints registry sender history line offset ""

namespace Hinter

variable {hint : String} {hinter : Hinter} {colored : Bool}

theorem unawaited_iff :
    (offset ≠ byteLength line.toList || (trim line.toList).isEmpty) = true ↔
      ¬ Awaits line offset := by
  rw [Bool.or_eq_true, isEmpty_trim_iff, decide_eq_true_eq, Awaits, not_and_or, Decidable.not_not]

theorem handle_of_unawaited (unawaited : ¬ Awaits line offset) :
    hinter.handle registry sender search line offset colored = ("", ⟨""⟩) := by
  rw [handle, if_pos (unawaited_iff.mpr unawaited), clear]

theorem handle_of_none (awaits : Awaits line offset)
    (uncompleted : suggestionHint? registry sender line = none)
    (unrecalled : historyHint? search line = none) :
    hinter.handle registry sender search line offset colored = ("", ⟨""⟩) := by
  rw [handle, if_neg fun unawaited => unawaited_iff.mp unawaited awaits, uncompleted, unrecalled]
  rfl

theorem handle_of_some (awaits : Awaits line offset)
    (guessed : (suggestionHint? registry sender line).or (historyHint? search line) = some more) :
    hinter.handle registry sender search line offset colored =
      (Paint.faint.applyIf colored (String.ofList more), ⟨String.ofList more⟩) := by
  rw [handle, if_neg fun unawaited => unawaited_iff.mp unawaited awaits, guessed]

end Hinter

theorem suggestionHint?_eq_none_iff :
    suggestionHint? registry sender line = none ↔ ¬ IsCompleted registry sender line := by
  rw [Option.eq_none_iff_forall_ne_some]
  simp only [ne_eq, suggestionHint?_eq_some_iff, IsCompleted]
  exact ⟨fun never ⟨suggestion, more, adds⟩ => never more ⟨suggestion, adds⟩,
    fun never more ⟨suggestion, adds⟩ => never ⟨suggestion, more, adds⟩⟩

theorem length_lt_iff {found : String} (split : line.toList ++ more = found.toList) :
    line.length < found.length ↔ more ≠ [] := by
  rw [← String.length_toList (s := line), ← String.length_toList (s := found), ← split,
    List.length_append, ← List.length_pos_iff]
  omega

theorem historyHint?_eq_none_iff (searched : history.IsSearchedBy search) :
    historyHint? search line = none ↔
      ∀ found, history.IsNewest line.toList found → ¬ line.length < found.length := by
  rw [Option.eq_none_iff_forall_ne_some]
  simp only [ne_eq, historyHint?_eq_some_iff searched]
  constructor
  · rintro never found newest longer
    obtain ⟨rest, split⟩ := newest.starts
    exact never rest ⟨found, newest, split.symm, (length_lt_iff split).mp longer⟩
  · rintro shorter rest ⟨found, newest, split, nonempty⟩
    exact shorter found newest ((length_lt_iff split.symm).mpr nonempty)

/-- This is how a hint is shown. -/
def shownHint (colored : Bool) (hint : String) : String :=
  if colored ∧ hint ≠ "" then Paint.faint.apply hint else hint

theorem applyIf_eq_shownHint (colored : Bool) (nonempty : more ≠ []) :
    Paint.faint.applyIf colored (String.ofList more) =
      shownHint colored (String.ofList more) := by
  cases colored <;> simp [Paint.applyIf, shownHint, nonempty]

section

variable (ends : ∀ suggestion ∈ (registry.suggestions sender line).items,
  suggestion.span.Ends line.toList)

include ends

theorem exists_hints : ∃ hint, Hints registry sender history line offset hint := by
  by_cases awaits : Awaits line offset
  · by_cases completed : IsCompleted registry sender line
    · obtain ⟨suggestion, more, only, adds⟩ := completed
      have accepted := adds.apply_eq (ends suggestion (only ▸ List.mem_cons_self))
      exact ⟨_, .completion awaits only adds accepted.symm⟩
    · by_cases recalled : ∃ found, history.IsNewest line.toList found ∧ line.length < found.length
      · obtain ⟨found, newest, longer⟩ := recalled
        obtain ⟨rest, split⟩ := newest.starts
        have accepted : line ++ String.ofList rest = found := by
          rw [← String.toList_inj, String.toList_append, String.toList_ofList, split]
        exact ⟨_, .recollection awaits completed newest longer accepted⟩
      · exact ⟨"", .nothing awaits completed fun found newest longer =>
          recalled ⟨found, newest, longer⟩⟩
  · exact ⟨"", .unawaited awaits⟩

theorem Hints.handle_eq {hint : String} (searched : history.IsSearchedBy search)
    (hints : Hints registry sender history line offset hint) (hinter : Hinter) (colored : Bool) :
    hinter.handle registry sender search line offset colored =
      (shownHint colored hint, ⟨hint⟩) := by
  have empty : shownHint colored "" = "" := if_neg fun shown => shown.2 rfl
  cases hints with
  | unawaited unawaited => rw [Hinter.handle_of_unawaited unawaited, empty]
  | @completion suggestion more _ awaits only adds accepted =>
      have guessed := suggestionHint?_eq_some_iff.mpr ⟨suggestion, only, adds⟩
      rw [adds.apply_eq (ends suggestion (only ▸ List.mem_cons_self)), ← String.toList_inj,
        String.toList_append, String.toList_append, List.append_cancel_left_eq,
        String.toList_inj] at accepted
      obtain ⟨_, _, _, _, _, nonempty⟩ := adds
      rw [accepted, Hinter.handle_of_some awaits (by rw [guessed, Option.some_or]),
        applyIf_eq_shownHint colored nonempty]
  | @recollection found _ awaits uncompleted newest longer accepted =>
      subst accepted
      have nonempty : hint.toList ≠ [] :=
        (length_lt_iff String.toList_append.symm).mp longer
      have guessed : (suggestionHint? registry sender line).or (historyHint? search line) =
          some hint.toList := by
        rw [suggestionHint?_eq_none_iff.mpr uncompleted, Option.none_or,
          historyHint?_eq_some_iff searched]
        exact ⟨_, newest, String.toList_append, nonempty⟩
      rw [Hinter.handle_of_some awaits guessed, applyIf_eq_shownHint colored nonempty,
        String.ofList_toList]
  | nothing awaits uncompleted unrecalled =>
      rw [Hinter.handle_of_none awaits (suggestionHint?_eq_none_iff.mpr uncompleted)
        ((historyHint?_eq_none_iff searched).mpr unrecalled), empty]

end

/-! ### Words of a hint -/

namespace Hinter

/-- A hint is its next word and what is left, which starts with a blank. -/
theorem exists_rest (hinter : Hinter) :
    ∃ rest, hinter.complete = hinter.nextWord ++ rest ∧
      ∀ first ∈ rest.toList.head?, isBlank first := by
  refine ⟨String.ofList ((hinter.current.toList.dropWhile isBlank).dropWhile isSolid), ?_, ?_⟩
  · rw [complete, nextWord, ← String.ofList_append, List.append_assoc,
      List.takeWhile_append_dropWhile, List.takeWhile_append_dropWhile, String.ofList_toList]
  · intro first member
    rw [String.toList_ofList] at member
    have stops := List.head?_dropWhile_not isSolid (hinter.current.toList.dropWhile isBlank)
    rw [Option.mem_def.mp member] at stops
    simpa [isSolid] using stops

theorem nextWord_ne_empty {hinter : Hinter} (nonempty : hinter.complete ≠ "") :
    hinter.nextWord ≠ "" := by
  rw [complete, ne_eq, ← String.toList_inj, String.toList_empty] at nonempty
  rw [nextWord, ne_eq, ← String.toList_inj, String.toList_ofList, String.toList_empty]
  cases hint : hinter.current.toList with
  | nil => exact absurd hint nonempty
  | cons first rest => cases blank : isBlank first <;> simp [isSolid, blank]

/-- The words of a hint are taken one after another until nothing is left. -/
inductive IsTakenBy : String → List String → Prop where
  | nothing : IsTakenBy "" []
  | word {hint rest : String} {words : List String} (nonempty : hint ≠ "")
      (split : hint = (Hinter.mk hint).nextWord ++ rest) (later : IsTakenBy rest words) :
      IsTakenBy hint ((Hinter.mk hint).nextWord :: words)

theorem exists_isTakenBy (hint : String) : ∃ words, IsTakenBy hint words := by
  by_cases nonempty : hint = ""
  · exact ⟨[], nonempty ▸ .nothing⟩
  · obtain ⟨rest, split, _⟩ := exists_rest ⟨hint⟩
    have taken : 0 < (Hinter.mk hint).nextWord.length := by
      rw [← String.length_toList, List.length_pos_iff, ne_eq, String.toList_eq_nil_iff]
      exact nextWord_ne_empty nonempty
    have shorter : rest.length < hint.length := by
      rw [show hint = _ from split, String.length_append]
      omega
    obtain ⟨words, later⟩ := exists_isTakenBy rest
    exact ⟨_, .word nonempty split later⟩
termination_by hint.length

/-- The words make up the hint. -/
theorem IsTakenBy.join_eq {hint : String} {words : List String} (taken : IsTakenBy hint words) :
    String.join words = hint ∧ ∀ word ∈ words, word ≠ "" := by
  induction taken with
  | nothing => exact ⟨rfl, fun _ member => nomatch member⟩
  | @word hint rest words nonempty split _ inductionHypothesis =>
      obtain ⟨together, later⟩ := inductionHypothesis
      refine ⟨?_, List.forall_mem_cons.mpr ⟨nextWord_ne_empty nonempty, later⟩⟩
      rw [String.join_cons, together]
      exact split.symm

/-- Each line has one hint, where the providers are operational and the history is searched for its
newest lines. The hinter shows the hint in its colour and keeps it without, whatever it kept
before. The next word of it ends where it ends or in front of a blank, and so it is taken word by
word to its end. -/
theorem handle_gives_hint
    (operational : ∀ command ∈ registry.commands, command.root.IsOperational) (sender : Sender)
    (searched : history.IsSearchedBy search) (line : String) (offset : Nat) :
    ∃ hint, (∀ other, Hints registry sender history line offset other ↔ other = hint) ∧
      ∀ (hinter : Hinter) (colored : Bool),
        let result := hinter.handle registry sender search line offset colored
        result.1 = shownHint colored hint ∧ result.2.complete = hint ∧
          (∃ rest, hint = result.2.nextWord ++ rest ∧
            (hint ≠ "" → result.2.nextWord ≠ "") ∧ ∀ first ∈ rest.toList.head?, isBlank first) ∧
          ∃ words, IsTakenBy hint words ∧ String.join words = hint ∧ ∀ word ∈ words, word ≠ "" := by
  have ends := (registry.completes_suggestions operational sender line).ends
  obtain ⟨hint, hints⟩ : ∃ hint, Hints registry sender history line offset hint :=
    exists_hints ends
  refine ⟨hint, fun other => ⟨fun others => ?_, fun same => same ▸ hints⟩, ?_⟩
  · have handled := hints.handle_eq ends searched fresh false
    rw [others.handle_eq ends searched fresh false] at handled
    exact congrArg (fun result => result.2.complete) handled
  · intro hinter colored result
    have handled : result = (shownHint colored hint, ⟨hint⟩) :=
      hints.handle_eq ends searched hinter colored
    obtain ⟨rest, split, behind⟩ := exists_rest ⟨hint⟩
    obtain ⟨words, taken⟩ := exists_isTakenBy hint
    rw [handled]
    exact ⟨rfl, rfl, ⟨rest, split, nextWord_ne_empty, behind⟩, words, taken, taken.join_eq⟩

/-- This suggests two places to ride to. -/
def riding : Registry String where
  commands := [{
    toDraft := .ofName "ride" [
      (Node.argument "place" .word).suggesting
        (.fixed [("home", none), ("harbour", some "by the sea")])]
    sound := by decide }]
  index := [("ride", 0)]

/-- One line is completed, and the other one goes on as in the history. -/
theorem handle_gives_hint_riding :
    let console : Sender := ⟨"console", [], false⟩
    let history : History := ⟨100, ["ride bus home", "ride bike"]⟩
    (∀ command ∈ riding.commands, command.root.IsOperational) ∧
    Hints riding console history "ride ho" 7 "me" ∧
    Hints riding console history "ride b" 6 "us home" ∧
    (∀ (hinter : Hinter) (colored : Bool),
      (hinter.handle riding console history.search? "ride b" 6 colored).2.complete = "us home") ∧
    IsTakenBy "us home" ["us", " home"] := by
  intro console history
  have operational : ∀ command ∈ riding.commands, command.root.IsOperational := by
    intro command member
    obtain rfl := List.mem_singleton.mp member
    refine .node (fun _ provided => nomatch provided) fun child below => ?_
    obtain rfl := List.mem_singleton.mp below
    refine .node (fun provider provided => ?_) (fun _ below => nomatch below)
    obtain rfl := Option.some.inj provided
    exact Provider.isOperational_fixed _
  have searched := history.isSearchedBy_search?
  obtain ⟨home, homeHints, homeKept⟩ := handle_gives_hint operational console searched "ride ho" 7
  obtain ⟨bus, busHints, busKept⟩ := handle_gives_hint operational console searched "ride b" 6
  have completed : (fresh.handle riding console history.search? "ride ho" 7 true).2.complete =
      "me" := by
    decide +kernel
  have recalled : (fresh.handle riding console history.search? "ride b" 6 true).2.complete =
      "us home" := by
    decide +kernel
  obtain rfl := (homeKept fresh true).2.1.symm.trans completed
  obtain rfl := (busKept fresh true).2.1.symm.trans recalled
  have last : IsTakenBy " home" [" home"] := .word (by decide) (by decide) .nothing
  exact ⟨operational, (homeHints _).mpr rfl, (busHints _).mpr rfl,
    fun hinter colored => (busKept hinter colored).2.1, .word (by decide) (by decide) last⟩

end Hinter

end Shell

end CommandShell
