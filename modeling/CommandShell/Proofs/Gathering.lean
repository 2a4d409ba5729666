/-
This file shows that a registry suggests what its commands suggest together. While a label is typed,
each command that the sender may use suggests its own labels; afterwards only the command that the
label names suggests anything.
-/

import CommandShell.Proofs.Completion
import CommandShell.Proofs.Registration

namespace CommandShell

open Text

theorem Batch.mem_merge_iff {batches : List Batch} {suggestion : Suggestion} :
    suggestion ∈ (merge batches).items ↔
      Suggestion.Chosen (batches.flatMap items) suggestion := by
  by_cases nonempty : batches = []
  · subst nonempty
    constructor
    · intro member
      cases member
    · intro chosen
      cases chosen.mem
  · exact (joins_merge nonempty).mem_iff suggestion

/-- What some batches hold in order is what they merge to. -/
theorem Batch.items_eq_merge {batch : Batch} {batches : List Batch}
    (gathers : ∀ suggestion, suggestion ∈ batch.items ↔
      ∃ other ∈ batches, suggestion ∈ other.items) :
    batch.items = (merge batches).items := by
  apply Suggestion.eq_of_mem_iff batch.sorted (merge batches).sorted
  intro suggestion
  have together : ∀ other, other ∈ batch.items ↔ other ∈ batches.flatMap items := by
    intro other
    rw [gathers, List.mem_flatMap]
  rw [mem_merge_iff, ← Suggestion.chosen_congr together, Suggestion.chosen_iff_mem batch.sorted]

namespace Command

variable {ω : Type} {command : Command ω} {sender : Sender} {line label : String}
  {behind : Cursor} {suggestion : Suggestion}

/-- While a label is typed, a command suggests its labels to those who may use it. -/
theorem mem_suggestions_of_typing (labelled : Labelled line label behind)
    (typing : behind.atBlank = false) :
    suggestion ∈ (command.suggestions sender line).items ↔
      command.usableBy sender ∧ suggestion ∈
        ((Suggester.behind (Cursor.ofLine line)).suggestAll command.labels).batch.items := by
  by_cases rejected : command.Rejects sender
  · rw [suggestions_of_rejects rejected, rejects_iff.mp rejected]
    simp [Batch.empty]
  · rw [suggestions_of_typing rejected labelled typing, not_rejects_iff.mp rejected]
    simp

/-- Behind a label that is not its own a command suggests nothing. -/
theorem items_of_unknown (labelled : Labelled line label behind) (separated : behind.atBlank)
    (unknown : label ∉ command.labels) : (command.suggestions sender line).items = [] := by
  by_cases rejected : command.Rejects sender
  · rw [suggestions_of_rejects rejected, Batch.empty]
  · rw [suggestions_of_unknown rejected labelled separated unknown, Batch.empty]

end Command

namespace Registry

variable {ω : Type} {registry : Registry ω} {command : Command ω} {sender : Sender}
  {line label : String} {behind : Cursor} {suggestion : Suggestion}

theorem suggestions_of_typing (labelled : Labelled line label behind)
    (typing : behind.atBlank = false) :
    registry.suggestions sender line = ((Suggester.behind (Cursor.ofLine line)).suggestAll
      ((registry.usableCommands sender).flatMap fun command => command.labels)).batch := by
  obtain ⟨_, rfl⟩ := Labelled.iff_eq.mp labelled
  simp [suggestions, typing, Suggester.ofLine_zero]

theorem suggestions_of_found (labelled : Labelled line label behind) (separated : behind.atBlank)
    (found : registry.find? label = some command) :
    registry.suggestions sender line = command.suggestions sender line := by
  obtain ⟨rfl, rfl⟩ := Labelled.iff_eq.mp labelled
  simp [suggestions, separated, found]

theorem suggestions_of_missing (labelled : Labelled line label behind) (separated : behind.atBlank)
    (missing : registry.find? label = none) :
    registry.suggestions sender line = .empty (byteLength line.toList) := by
  obtain ⟨rfl, rfl⟩ := Labelled.iff_eq.mp labelled
  simp [suggestions, separated, missing]

theorem mem_suggestions_of_typing (labelled : Labelled line label behind)
    (typing : behind.atBlank = false) :
    suggestion ∈ (registry.suggestions sender line).items ↔
      ∃ command ∈ registry.commands, suggestion ∈ (command.suggestions sender line).items := by
  have labels (texts : List String) :=
    (Suggester.batch_continues (Cursor.ofLine line) texts).mem_iff suggestion
  rw [suggestions_of_typing labelled typing, labels, List.mem_flatMap]
  simp only [Command.mem_suggestions_of_typing labelled typing, labels, usableCommands,
    List.mem_filter]
  constructor
  · rintro ⟨⟨command, ⟨member, usable⟩, named⟩, continues⟩
    exact ⟨command, member, usable, named, continues⟩
  · rintro ⟨command, member, usable, named, continues⟩
    exact ⟨⟨command, ⟨member, usable⟩, named⟩, continues⟩

theorem Consistent.mem_suggestions_of_separated (consistent : registry.Consistent)
    (labelled : Labelled line label behind) (separated : behind.atBlank) :
    suggestion ∈ (registry.suggestions sender line).items ↔
      ∃ command ∈ registry.commands, suggestion ∈ (command.suggestions sender line).items := by
  -- All that is suggested comes from a command with the label, of which there is at most one.
  have owner (other : Command ω) (suggested : suggestion ∈ (other.suggestions sender line).items) :
      label ∈ other.labels := by
    by_cases named : label ∈ other.labels
    · exact named
    · rw [Command.items_of_unknown labelled separated named] at suggested
      cases suggested
  cases found : registry.find? label with
  | none =>
      rw [suggestions_of_missing labelled separated found]
      constructor
      · intro member
        cases member
      · rintro ⟨other, among, suggested⟩
        exact absurd ⟨other, among, owner other suggested⟩ (consistent.find?_eq_none_iff.mp found)
  | some command =>
      rw [suggestions_of_found labelled separated found]
      constructor
      · intro suggested
        exact ⟨command, mem_of_find?_eq_some found, suggested⟩
      · rintro ⟨other, among, suggested⟩
        have own := consistent.find?_of_mem among (owner other suggested)
        obtain rfl : command = other := Option.some.inj (found.symm.trans own)
        exact suggested

/-- A registry suggests what at least one of its commands suggests. -/
theorem Consistent.mem_suggestions_iff (consistent : registry.Consistent) :
    suggestion ∈ (registry.suggestions sender line).items ↔
      ∃ command ∈ registry.commands, suggestion ∈ (command.suggestions sender line).items := by
  have labelled := Labelled.ofLine line
  cases separated : (Cursor.ofLine line).skipWord.atBlank with
  | false => exact mem_suggestions_of_typing labelled separated
  | true => exact consistent.mem_suggestions_of_separated labelled separated

/-- Asking a registry is asking all of its commands, in any order, and merging their answers. -/
theorem registerAll_gathers (calls : List (Command ω)) (sender : Sender) (line : String) :
    let registry := (empty : Registry ω).registerAll calls
    ∀ commands : List (Command ω), commands.Perm registry.commands →
      (registry.suggestions sender line).items =
        (Batch.merge (commands.map fun command => command.suggestions sender line)).items := by
  intro registry commands permuted
  have consistent : registry.Consistent := (Reachable.empty.registerAll calls).consistent
  rw [Batch.merge_perm (permuted.map _)]
  apply Batch.items_eq_merge
  intro suggestion
  rw [consistent.mem_suggestions_iff]
  constructor
  · rintro ⟨command, member, suggested⟩
    exact ⟨_, List.mem_map_of_mem member, suggested⟩
  · rintro ⟨_, member, suggested⟩
    obtain ⟨command, among, rfl⟩ := List.mem_map.mp member
    exact ⟨command, among, suggested⟩

/-- Two commands may have labels that start alike. -/
def manual : Command String where
  toDraft := (Draft.ofName "Manual" []).executing Context.label
  sound := by decide

theorem registerAll_gathers_labels :
    let registry := (empty : Registry String).registerAll [mail, manual]
    let sender : Sender := ⟨"console", [], false⟩
    let typed : Span := ⟨0, 2, by decide⟩
    [manual, mail].Perm registry.commands ∧
      (registry.suggestions sender "ma").items =
        (Batch.merge ([manual, mail].map fun command => command.suggestions sender "ma")).items ∧
      ⟨typed, "mail", none⟩ ∈ (registry.suggestions sender "ma").items ∧
      ⟨typed, "Manual", none⟩ ∈ (registry.suggestions sender "ma").items := by
  intro registry sender typed
  have permuted : [manual, mail].Perm registry.commands := .swap mail manual []
  have suggested (label : String) :=
    (Suggester.batch_continues (Cursor.ofLine "ma")
      ((registry.usableCommands sender).flatMap fun command => command.labels)).mem_iff
        ⟨typed, label, none⟩
  have typing : registry.suggestions sender "ma" = _ :=
    suggestions_of_typing (Labelled.ofLine "ma") (by decide)
  rw [typing, suggested, suggested, ← typing]
  exact ⟨permuted, registerAll_gathers [mail, manual] sender "ma" _ permuted,
    ⟨by decide, .inr (by decide), rfl, rfl⟩, by decide, .inr (by decide), rfl, rfl⟩

end Registry

end CommandShell
