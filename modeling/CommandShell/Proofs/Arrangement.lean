/-
This file shows that the order in which commands are registered does not matter. Each command is found
by its labels wherever it stands, what is suggested is put in order, and help is sorted by names, of
which no two are equal.
-/

import CommandShell.Proofs.Concealment
import CommandShell.Proofs.Gathering
import Mathlib.Data.List.Nodup

namespace CommandShell

open Text

/-- Only the members of a list of texts matter. -/
theorem Batch.Continues.congr {batch : Batch} {place : Cursor} {texts others : List String}
    (continues : batch.Continues place texts) (same : ∀ text, text ∈ texts ↔ text ∈ others) :
    batch.Continues place others where
  mem_iff suggestion := by rw [continues.mem_iff, same]
  span_eq := continues.span_eq

/-! ### Sorting by names -/

namespace HelpEntry

variable {entries others : List HelpEntry}

theorem sort_perm (entries : List HelpEntry) : (sort entries).Perm entries :=
  List.mergeSort_perm entries _

/-- Entries with distinct names are sorted strictly. -/
theorem sort_pairwise (distinct : (entries.map name).Nodup) :
    (sort entries).Pairwise fun left right => left.name < right.name := by
  have ordered : (sort entries).Pairwise fun left right =>
      decide (left.name ≤ right.name) = true := by
    apply List.pairwise_mergeSort
    · intro first second third before behind
      rw [decide_eq_true_eq] at before behind ⊢
      exact String.le_trans before behind
    · intro left right
      simpa using String.le_total left.name right.name
  have apart : (sort entries).Pairwise fun left right => left.name ≠ right.name :=
    List.pairwise_map.mp (((sort_perm entries).map name).nodup_iff.mpr distinct)
  refine (ordered.and apart).imp ?_
  rintro left right ⟨before, differs⟩
  rw [decide_eq_true_eq] at before
  exact Std.lt_of_le_of_ne before differs

/-- Entries can be sorted strictly in one way only. -/
theorem eq_of_perm (permuted : entries.Perm others)
    (sorted : entries.Pairwise fun left right => left.name < right.name)
    (otherSorted : others.Pairwise fun left right => left.name < right.name) :
    entries = others := by
  refine permuted.eq_of_pairwise ?_ sorted otherSorted
  intro left right _ _ before behind
  exact absurd (String.lt_trans before behind) (String.lt_irrefl _)

theorem sort_eq_of_perm (permuted : entries.Perm others) (distinct : (entries.map name).Nodup) :
    sort entries = sort others := by
  have otherDistinct := (permuted.map name).nodup_iff.mp distinct
  have together := (sort_perm entries).trans (permuted.trans (sort_perm others).symm)
  exact eq_of_perm together (sort_pairwise distinct) (sort_pairwise otherDistinct)

end HelpEntry

/-! ### Registries with the same commands -/

namespace Registry

variable {ω : Type} {registry other : Registry ω}

/-- No two usable commands have the same name. -/
theorem Consistent.nodup_names (consistent : registry.Consistent) (sender : Sender) :
    (((registry.usableCommands sender).map fun command => command.helpEntry sender).map
      HelpEntry.name).Nodup := by
  rw [List.map_map, List.Nodup, List.pairwise_map]
  have apart := (List.nodup_flatMap.mp consistent.nodup_labels).2
  refine (apart.sublist List.filter_sublist).imp ?_
  intro left right disjoint (same : left.name = right.name)
  exact disjoint (show left.name ∈ left.labels from List.mem_cons_self)
    (same ▸ List.mem_cons_self)

section Permuted

variable (consistent : registry.Consistent) (otherConsistent : other.Consistent)
  (permuted : registry.commands.Perm other.commands) (sender : Sender)

include permuted

theorem usableCommands_perm :
    (registry.usableCommands sender).Perm (other.usableCommands sender) :=
  permuted.filter _

include consistent

theorem helpEntries_perm : registry.helpEntries sender = other.helpEntries sender := by
  have entries := (usableCommands_perm permuted sender).map fun command => command.helpEntry sender
  exact HelpEntry.sort_eq_of_perm entries (consistent.nodup_names sender)

include otherConsistent

theorem find?_perm (label : String) : registry.find? label = other.find? label := by
  cases found : registry.find? label with
  | none =>
      refine (otherConsistent.find?_eq_none_iff.mpr ?_).symm
      rintro ⟨command, member, named⟩
      exact consistent.find?_eq_none_iff.mp found ⟨command, permuted.mem_iff.mpr member, named⟩
  | some command =>
      obtain ⟨place, atPlace, named⟩ := consistent.find?_eq_some_iff.mp found
      have member := permuted.mem_iff.mp (List.mem_of_getElem? atPlace)
      exact (otherConsistent.find?_of_mem member named).symm

theorem resolve_perm (line : String) : registry.resolve sender line = other.resolve sender line := by
  simp only [resolve, find?_perm consistent otherConsistent permuted]

theorem suggestions_perm (line : String) :
    registry.suggestions sender line = other.suggestions sender line := by
  have labelled := Labelled.ofLine line
  cases separated : (Cursor.ofLine line).skipWord.atBlank with
  | false =>
      rw [suggestions_of_typing labelled separated, suggestions_of_typing labelled separated]
      have labels := (usableCommands_perm permuted sender).flatMap_right fun command : Command ω =>
        command.labels
      have continues := Suggester.batch_continues (Cursor.ofLine line)
        ((registry.usableCommands sender).flatMap fun command => command.labels)
      exact (continues.congr fun _ => labels.mem_iff).unique (Suggester.batch_continues _ _)
  | true =>
      have same := find?_perm consistent otherConsistent permuted
      cases found : registry.find? (String.ofList (Cursor.ofLine line).word) with
      | none =>
          rw [suggestions_of_missing labelled separated found,
            suggestions_of_missing labelled separated ((same _).symm.trans found)]
      | some command =>
          rw [suggestions_of_found labelled separated found,
            suggestions_of_found labelled separated ((same _).symm.trans found)]

theorem showsSame_perm : ShowsSame sender registry other := by
  apply showsSame_of_views
  · exact suggestions_perm consistent otherConsistent permuted sender
  · intro label
    unfold Shell.labelHighlight
    rw [find?_perm consistent otherConsistent permuted]
  · exact helpEntries_perm consistent permuted sender

end Permuted

/-- Commands that share no label can be registered. -/
theorem exists_registerEach {commands : List (Command ω)}
    (disjoint : commands.Pairwise fun left right => ∀ label ∈ left.labels, label ∉ right.labels) :
    ∃ registry, commands.foldlM accept empty = .ok registry ∧ registry.Reachable ∧
      registry.commands = commands := by
  refine Reachable.exists_registerEach Reachable.empty (List.nodup_flatMap.mpr ⟨?_, ?_⟩)
  · exact fun command _ => command.nodup_labels
  · exact disjoint.imp fun apart label named otherNamed => apart label named otherNamed

/-- Commands that share no label can be registered in any order. Senders are shown the same and their
lines are answered in the same way, and help has one entry for each usable command, in the order of
their names. -/
theorem registerEach_perm {commands others : List (Command ω)}
    (disjoint : commands.Pairwise fun left right => ∀ label ∈ left.labels, label ∉ right.labels)
    (permuted : commands.Perm others) :
    ∃ registry other, commands.foldlM accept empty = .ok registry ∧
      others.foldlM accept empty = .ok other ∧
      registry.commands = commands ∧ other.commands = others ∧
      ∀ sender, ShowsSame sender registry other ∧
        (∀ line, registry.resolve sender line = other.resolve sender line ∧
          registry.execute sender line = other.execute sender line) ∧
        (registry.helpEntries sender).Pairwise (fun left right => left.name < right.name) ∧
        (registry.helpEntries sender).Perm
          ((commands.filter fun command => command.usableBy sender).map fun command =>
            command.helpEntry sender) := by
  have otherDisjoint := disjoint.perm permuted fun apart label named otherNamed =>
    apart label otherNamed named
  obtain ⟨registry, registered, reachable, rfl⟩ := exists_registerEach disjoint
  obtain ⟨other, otherRegistered, otherReachable, rfl⟩ := exists_registerEach otherDisjoint
  have consistent := reachable.consistent
  have otherConsistent := otherReachable.consistent
  refine ⟨registry, other, registered, otherRegistered, rfl, rfl, fun sender => ⟨?_, ?_, ?_, ?_⟩⟩
  · exact showsSame_perm consistent otherConsistent permuted sender
  · intro line
    have same := resolve_perm consistent otherConsistent permuted sender line
    exact ⟨same, congrArg (·.map Call.run) same⟩
  · exact HelpEntry.sort_pairwise (consistent.nodup_names sender)
  · exact HelpEntry.sort_perm _

/-- A console reads of two commands in the order of their names, whichever was registered first. -/
theorem registerEach_perm_swap :
    let console : Sender := ⟨"console", [], false⟩
    let entries := [post.helpEntry console, tell.helpEntry console]
    ([tell, post].Pairwise fun left right => ∀ label ∈ left.labels, label ∉ right.labels) ∧
    [tell, post].Perm [post, tell] ∧
    ∃ registry other, [tell, post].foldlM accept empty = .ok registry ∧
      [post, tell].foldlM accept empty = .ok other ∧
      registry.commands = [tell, post] ∧ other.commands = [post, tell] ∧
      registry.helpEntries console = entries ∧ other.helpEntries console = entries ∧
      registry.suggestionsAt console "pot" 2 = other.suggestionsAt console "pot" 2 ∧
      registry.execute console "msg" = other.execute console "msg" ∧
      registry.execute console "msg" = .ok "msg" := by
  intro console entries
  have disjoint : [tell, post].Pairwise fun left right =>
      ∀ label ∈ left.labels, label ∉ right.labels := by decide
  have permuted : [tell, post].Perm [post, tell] := .swap post tell []
  obtain ⟨registry, other, registered, otherRegistered, commands, otherCommands, same⟩ :=
    registerEach_perm disjoint permuted
  obtain ⟨shows, answers, sorted, together⟩ := same console
  have ordered : registry.helpEntries console = entries :=
    HelpEntry.eq_of_perm (together.trans (.swap _ _ [])) sorted (by decide)
  have answered := (answers "msg").2
  cases registered
  exact ⟨disjoint, permuted, _, other, rfl, otherRegistered, commands, otherCommands, ordered,
    shows.helpEntries_eq.symm.trans ordered, shows.suggestionsAt_eq "pot" 2, answered, rfl⟩

end Registry

end CommandShell
