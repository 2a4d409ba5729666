/-
This file shows that a command which a sender may not use looks unregistered to it. A registry of
the usable commands alone shows the sender the same, and what was forbidden is unknown there.
-/

import CommandShell.Proofs.Completion
import CommandShell.Proofs.Registration
import CommandShell.Shell.Highlight
import CommandShell.Shell.Menu
import Mathlib.Data.List.Flatten

namespace CommandShell.Registry

open Text

variable {ω : Type} {registry reduced : Registry ω} {command : Command ω} {sender : Sender}

/-! ### Registering the usable commands -/

/-- A command with new labels is registered behind the others. -/
theorem Reachable.exists_register (reachable : registry.Reachable)
    (fresh : ∀ label ∈ command.labels, ¬ registry.Taken label) :
    ∃ after, registry.accept command = .ok after ∧ after.Reachable ∧
      after.commands = registry.commands ++ [command] := by
  cases called : registry.register command with
  | mk result after =>
      cases result with
      | error error =>
          have refused := congrArg Prod.fst called
          obtain ⟨label, named, taken⟩ :=
            (register_fails_iff reachable.consistent).mp ⟨error, refused⟩
          exact absurd taken (fresh label named)
      | ok =>
          exact ⟨after, accept_eq_ok_iff.mpr called, .register reachable called,
            (register_eq_ok called).2.1⟩

/-- Commands that share no label are registered one behind the other. -/
theorem Reachable.exists_registerEach {commands : List (Command ω)} (reachable : registry.Reachable)
    (distinct : ((registry.commands ++ commands).flatMap fun command => command.labels).Nodup) :
    ∃ after, commands.foldlM Registry.accept registry = .ok after ∧ after.Reachable ∧
      after.commands = registry.commands ++ commands := by
  induction commands generalizing registry with
  | nil => exact ⟨registry, rfl, reachable, (List.append_nil _).symm⟩
  | cons command rest inductionHypothesis =>
      have apart := distinct
      rw [List.flatMap_append, List.flatMap_cons, List.nodup_append] at apart
      have fresh : ∀ label ∈ command.labels, ¬ registry.Taken label := by
        intro label named taken
        have used := List.mem_flatMap.mpr taken
        exact apart.2.2 label used label (List.mem_append_left _ named) rfl
      obtain ⟨after, registered, afterReachable, commands⟩ := reachable.exists_register fresh
      have restDistinct :
          ((after.commands ++ rest).flatMap fun command => command.labels).Nodup := by
        rwa [commands, List.append_assoc, List.singleton_append]
      obtain ⟨last, registeredRest, lastReachable, lastCommands⟩ :=
        inductionHypothesis afterReachable restDistinct
      refine ⟨last, ?_, lastReachable, ?_⟩
      · rw [List.foldlM_cons, registered]
        exact registeredRest
      · rw [lastCommands, commands, List.append_assoc, List.singleton_append]

theorem Consistent.nodup_labels (consistent : registry.Consistent) :
    (registry.commands.flatMap fun command => command.labels).Nodup :=
  consistent.keys ▸ consistent.distinct

/-- The usable commands of a registry can be registered without the others. -/
theorem Reachable.exists_reduced (reachable : registry.Reachable) (sender : Sender) :
    ∃ reduced,
      (registry.usableCommands sender).foldlM Registry.accept Registry.empty = .ok reduced ∧
      reduced.Reachable ∧ reduced.commands = registry.usableCommands sender := by
  have fewer : (registry.usableCommands sender).Sublist registry.commands := List.filter_sublist
  have distinct := reachable.consistent.nodup_labels.sublist (fewer.flatMap _)
  exact Reachable.exists_registerEach Reachable.empty distinct

/-! ### What a sender is shown -/

/-- A sender is shown the same by both registries: suggestions, menus, help and highlights. -/
structure ShowsSame (sender : Sender) (registry other : Registry ω) : Prop where
  suggestions_eq : ∀ line, registry.suggestions sender line = other.suggestions sender line
  suggestionsAt_eq : ∀ line offset,
    registry.suggestionsAt sender line offset = other.suggestionsAt sender line offset
  menu_eq : ∀ showsTooltips line offset,
    Shell.menu registry sender showsTooltips line offset =
      Shell.menu other sender showsTooltips line offset
  helpEntries_eq : registry.helpEntries sender = other.helpEntries sender
  highlight_eq : ∀ enabled line,
    Shell.highlight registry sender enabled line = Shell.highlight other sender enabled line

/-- What a sender is shown rests on suggestions, on the style of labels and on help. -/
theorem showsSame_of_views {other : Registry ω}
    (suggestions : ∀ line, registry.suggestions sender line = other.suggestions sender line)
    (highlights : ∀ label,
      Shell.labelHighlight registry sender label = Shell.labelHighlight other sender label)
    (entries : registry.helpEntries sender = other.helpEntries sender) :
    ShowsSame sender registry other where
  suggestions_eq := suggestions
  suggestionsAt_eq line offset := suggestions (lineBefore line offset)
  menu_eq showsTooltips line offset := by
    unfold Shell.menu suggestionsAt
    rw [suggestions]
  helpEntries_eq := entries
  highlight_eq enabled line := by
    unfold Shell.highlight
    simp only [highlights]

section Reduced

variable (consistent : registry.Consistent) (reducedConsistent : reduced.Consistent)
  (commands : reduced.commands = registry.usableCommands sender)

include commands

theorem usableCommands_reduced :
    reduced.usableCommands sender = registry.usableCommands sender := by
  rw [usableCommands, commands, usableCommands, List.filter_filter]
  simp only [Bool.and_self]

include consistent reducedConsistent

/-- The labels of the other commands still lead to them. -/
theorem find?_reduced (label : String) :
    reduced.find? label = (registry.find? label).filter fun command => command.usableBy sender := by
  have found : (reduced.find? label).toList =
      ((registry.find? label).filter fun command => command.usableBy sender).toList := by
    rw [Option.toList_filter, ← consistent.filter_hasLabel, ← reducedConsistent.filter_hasLabel,
      commands, usableCommands, List.filter_filter, List.filter_filter]
    simp only [Bool.and_comm]
  simpa only [Option.head?_toList] using congrArg List.head? found

theorem suggestions_reduced (line : String) :
    registry.suggestions sender line = reduced.suggestions sender line := by
  simp only [suggestions, usableCommands_reduced commands,
    find?_reduced consistent reducedConsistent commands]
  cases registry.find? (String.ofList (Cursor.ofLine line).word) with
  | none => rfl
  | some command =>
      cases usable : command.usableBy sender with
      | true => simp only [Option.filter, usable, ↓reduceIte]
      | false =>
          -- A command that the sender may not use suggests as little as no command.
          have nothing : command.suggestions sender line = .empty (byteLength line.toList) :=
            Command.suggestions_of_rejects (Command.rejects_iff.mpr usable)
          simp only [Option.filter, usable, Bool.false_eq_true, ↓reduceIte, nothing]

theorem labelHighlight_reduced (label : String) :
    Shell.labelHighlight registry sender label = Shell.labelHighlight reduced sender label := by
  unfold Shell.labelHighlight
  rw [find?_reduced consistent reducedConsistent commands]
  cases registry.find? label with
  | none => rfl
  | some command => cases usable : command.usableBy sender <;> simp [Option.filter, usable]

theorem showsSame_reduced : ShowsSame sender registry reduced := by
  apply showsSame_of_views
  · exact suggestions_reduced consistent reducedConsistent commands
  · exact labelHighlight_reduced consistent reducedConsistent commands
  · unfold helpEntries
    rw [usableCommands_reduced commands]

variable {line label : String} {behind : Cursor} (labelled : Labelled line label behind)

include labelled

/-- Lines of other commands, and of none, are answered in the same way. -/
theorem resolve_reduced
    (usable : ∀ command ∈ registry.commands, label ∈ command.labels → ¬ command.Rejects sender) :
    registry.resolve sender line = reduced.resolve sender line := by
  obtain ⟨rfl, _⟩ := Labelled.iff_eq.mp labelled
  simp only [resolve, find?_reduced consistent reducedConsistent commands]
  cases found : registry.find? (String.ofList (Cursor.ofLine line).word) with
  | none => rfl
  | some command =>
      obtain ⟨place, atPlace, named⟩ := consistent.find?_eq_some_iff.mp found
      have permitted := usable command (List.mem_of_getElem? atPlace) named
      rw [Command.not_rejects_iff] at permitted
      simp only [Option.filter, permitted, ↓reduceIte]

/-- What was forbidden is unknown without its command. -/
theorem execute_of_rejects (member : command ∈ registry.commands) (named : label ∈ command.labels)
    (rejected : command.Rejects sender) :
    registry.execute sender line = .error (.permissionDenied command.name) ∧
      reduced.execute sender line = .error (.unknownCommand label) := by
  rw [execute_eq_error_iff, execute_eq_error_iff]
  constructor
  · rw [consistent.resolve_of_owner labelled member named]
    exact Command.resolve_of_rejects labelled named rejected
  · apply reducedConsistent.resolve_of_free labelled
    rintro ⟨other, usable, otherNamed⟩
    rw [commands, usableCommands, List.mem_filter, ← Command.not_rejects_iff] at usable
    have found := consistent.find?_of_mem member named
    rw [consistent.find?_of_mem usable.1 otherNamed] at found
    obtain rfl := Option.some.inj found
    exact usable.2 rejected

end Reduced

/-- A command that a sender may not use looks unregistered: the usable commands can be registered
without the others, and then the sender is shown the same and its lines are answered in the same
way, but for those of the missing commands. -/
theorem registerAll_conceals (calls : List (Command ω)) (sender : Sender) :
    let registry := (empty : Registry ω).registerAll calls
    ∃ reduced, (registry.usableCommands sender).foldlM accept empty = .ok reduced ∧
      ShowsSame sender registry reduced ∧
      ∀ line label behind, Labelled line label behind →
        (∀ command ∈ registry.commands, label ∈ command.labels → command.Rejects sender →
          registry.execute sender line = .error (.permissionDenied command.name) ∧
          reduced.execute sender line = .error (.unknownCommand label)) ∧
        ((∀ command ∈ registry.commands, label ∈ command.labels → ¬ command.Rejects sender) →
          registry.resolve sender line = reduced.resolve sender line ∧
          registry.execute sender line = reduced.execute sender line) := by
  intro registry
  have reachable : registry.Reachable := Reachable.empty.registerAll calls
  obtain ⟨reduced, registered, reducedReachable, commands⟩ := reachable.exists_reduced sender
  have consistent := reachable.consistent
  have reducedConsistent := reducedReachable.consistent
  refine ⟨reduced, registered, showsSame_reduced consistent reducedConsistent commands, ?_⟩
  intro line label behind labelled
  constructor
  · intro command member named rejected
    exact execute_of_rejects consistent reducedConsistent commands labelled member named rejected
  · intro usable
    have same := resolve_reduced consistent reducedConsistent commands labelled usable
    exact ⟨same, congrArg (·.map Call.run) same⟩

/-- Only operators may stop. -/
def stop : Command String where
  toDraft := (((Draft.ofName "stop" []).withAlias "halt").permittedBy "shell.stop").executing
    Context.label
  sound := by decide

/-- A guest that stops is told that this is forbidden, or unknown where the command is missing. -/
theorem registerAll_conceals_stop :
    let registry := (empty : Registry String).registerAll [stop, tell]
    let guest : Sender := ⟨"guest", [], false⟩
    stop ∈ registry.commands ∧ stop.Rejects guest ∧ ¬ tell.Rejects guest ∧
    ∃ reduced, (registry.usableCommands guest).foldlM accept empty = .ok reduced ∧
      ShowsSame guest registry reduced ∧
      Labelled "halt" "halt" ⟨"halt".toList, []⟩ ∧
      registry.execute guest "halt" = .error (.permissionDenied "stop") ∧
      reduced.execute guest "halt" = .error (.unknownCommand "halt") ∧
      Labelled "msg" "msg" ⟨"msg".toList, []⟩ ∧
      registry.execute guest "msg" = reduced.execute guest "msg" ∧
      registry.execute guest "msg" = .ok "msg" := by
  intro registry guest
  obtain ⟨reduced, registered, shows, lines⟩ := registerAll_conceals [stop, tell] guest
  have member : stop ∈ registry.commands := List.mem_cons_self
  have rejected : stop.Rejects guest := Command.rejects_iff.mpr (by decide)
  have usable : ¬ tell.Rejects guest := Command.not_rejects_iff.mpr (by decide)
  have halt_typed : Labelled "halt" "halt" ⟨"halt".toList, []⟩ :=
    Labelled.iff_eq.mpr ⟨by decide, by decide⟩
  have msg_typed : Labelled "msg" "msg" ⟨"msg".toList, []⟩ :=
    Labelled.iff_eq.mpr ⟨by decide, by decide⟩
  have forbidden := (lines _ _ _ halt_typed).1 stop member (by decide) rejected
  have allowed : ∀ command ∈ registry.commands, "msg" ∈ command.labels →
      ¬ command.Rejects guest := by
    intro command among named
    rcases List.mem_cons.mp among with rfl | other
    · exact absurd named (by decide)
    · rwa [List.mem_singleton.mp other]
  have same := ((lines _ _ _ msg_typed).2 allowed).2
  exact ⟨member, rejected, usable, reduced, registered, shows, halt_typed, forbidden.1, forbidden.2,
    msg_typed, same, rfl⟩

end CommandShell.Registry
