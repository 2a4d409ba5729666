/-
This file shows that the standard commands can be registered in every world, and what the words of
their lines mean.
-/

import CommandShell.Proofs.Concealment
import CommandShell.Proofs.View
import CommandShell.Proofs.WellFormed
import CommandShell.Proofs.Words

namespace CommandShell

open Argument Text

/-- A draft without faults is built as it is. -/
theorem Command.build_toDraft {ω : Type} (command : Command ω) :
    command.toDraft.build = .ok command := by
  rcases command.toDraft.build_cases with ⟨other, _, built, same⟩ | ⟨error, faulty, _⟩
  · rw [built]
    cases command
    cases other
    cases same
    rfl
  · rw [command.sound] at faulty
    cases faulty

theorem Registry.ofDrafts_toDraft {ω : Type} (commands : List (Command ω)) :
    ofDrafts (commands.map Command.toDraft) = commands.foldlM accept empty := by
  rw [ofDrafts, List.foldlM_map]
  congr 1
  funext registry command
  rw [Command.build_toDraft]
  rfl

/-- An executor that is called belongs to a node of the command. -/
theorem Command.executor_of_resolve {ω : Type} {command : Command ω} {sender : Sender}
    {line : String} {call : Call ω} {holds : Executor ω → Prop}
    (throughout : command.root.Throughout fun node => ∀ executor ∈ node.executor, holds executor)
    (resolved : command.resolve sender line = .ok call) : holds call.executor := by
  cases ((command.resolve_eq_iff_answers sender line).1 _).mp resolved with
  | call admits follows exhausted nodes executes last =>
      have every := follows.throughout throughout
      exact every _ (mem_of_split nodes) _ executes

theorem Command.ne_empty_of_mem_labels {ω : Type} {command : Command ω} {label : String}
    (named : label ∈ command.labels) : label ≠ "" := by
  rintro rfl
  exact absurd (isWord_of_mem_labels named) (by decide)

/-- The first word of a line that is called is one of the labels. -/
theorem Command.words_of_resolve {ω : Type} {command : Command ω} {sender : Sender} {line : String}
    {call : Call ω} (resolved : command.resolve sender line = .ok call) :
    ∃ label rest, label ∈ command.labels ∧ words line.toList = label :: rest := by
  cases ((command.resolve_eq_iff_answers sender line).1 _).mp resolved with
  | call admits follows exhausted nodes executes last =>
      have nonempty := Command.ne_empty_of_mem_labels admits.known
      exact ⟨_, _, admits.known, admits.labelled.words_eq_cons nonempty⟩

namespace World

theorem root_rosterCommand (world : World) :
    (rosterCommand world).root = .node (.literal "roster") none none [
      .node (.literal "list") (some fun _ => listRoster) none [],
      .node (.literal "add") none none [
        .node (.argument "name" .word none) (some joinRoster) none []],
      .node (.literal "remove") none none [
        .node (.argument "name" .word (some world.players)) (some leaveRoster) none []]] := rfl

theorem root_toggle :
    toggle.root = .node (.literal "toggle") none none [
      .node (.argument "flag" .word (some (.fixed (Flags.known.map fun flag => (flag.1, some flag.2)))))
        (some showFlag) none [
          .node (.argument "state" .boolean none) (some switchFlag) none []]] := rfl

theorem sound_rosterCommand (world : World) : (rosterCommand world).violation? = none := by
  cbv

/-- The commands have no faults in any world. -/
def commands (world : World) : List (Command Outcome) := [
  ⟨guide.help, rfl⟩, ⟨echo, rfl⟩, ⟨give world, by cbv⟩, ⟨gamemode world, by cbv⟩,
  ⟨teleport world, by cbv⟩, ⟨rosterCommand world, sound_rosterCommand world⟩, ⟨toggle, rfl⟩]

theorem labels_commands (world : World) :
    (world.commands.flatMap fun command => command.labels) =
      ["help", "?", "echo", "say", "give", "gamemode", "gm", "teleport", "tp", "roster",
        "toggle"] := rfl

theorem exists_registry (world : World) :
    ∃ registry, world.registry = .ok registry ∧ registry.Consistent ∧
      registry.commands = world.commands := by
  have distinct : (world.commands.flatMap fun command => command.labels).Nodup := by
    rw [labels_commands]
    decide
  obtain ⟨registry, registered, reachable, commands⟩ :=
    Registry.Reachable.exists_registerEach Registry.Reachable.empty distinct
  refine ⟨registry, ?_, reachable.consistent, commands⟩
  have drafts : drafts guide world = world.commands.map Command.toDraft := rfl
  rw [World.registry, drafts, Registry.ofDrafts_toDraft]
  exact registered

/-! ### What words mean -/

/-- This is what a line of the sender calls, told by its words. -/
inductive Means (sender : Sender) : List String → Outcome → Prop where
  | change {words : List String} {change : Change} {outcome : Outcome}
      (spelled : Change.ofWords? words = some change) (allowed : sender.holds change.permission)
      (carriesOut : outcome.CarriesOut change) : Means sender words outcome
  | list : Means sender ["roster", "list"] listRoster
  | flag {name : String} {context : Context} (named : context.get .text "flag" = .ok name) :
      Means sender ["toggle", name] (showFlag context)
  | other {label : String} {words : List String} {outcome : Outcome} (notRoster : label ≠ "roster")
      (notToggle : label ≠ "toggle") (harmless : outcome.Harmless) :
      Means sender (label :: words) outcome

variable {world : World} {sender : Sender} {line label : String} {behind : Cursor}
  {call : Call Outcome}

theorem callOf?_rosterCommand (words : List String) :
    (rosterCommand world).root.callOf? sender words =
      match words with
      | ["list"] => some (some fun _ => listRoster, [])
      | ["add", name] => some (some joinRoster, [("name", .text name)])
      | ["remove", name] => some (some leaveRoster, [("name", .text name)])
      | [] | ["add"] | ["remove"] => some (none, [])
      | _ => none := by
  rw [root_rosterCommand]
  rcases words with _ | ⟨first, rest⟩
  · rfl
  rw [Node.callOf?]
  simp only [Node.children, Node.firstTaking?_cons, Node.firstTaking?_nil, Segment.take?]
  by_cases list : first = "list"
  · subst list
    cases rest <;> simp [Node.callOf?, Node.children, Node.executor]
  by_cases add : first = "add"
  · subst add
    rcases rest with _ | ⟨name, _ | ⟨third, rest⟩⟩ <;>
      simp [Node.callOf?, Node.children, Node.executor, Node.firstTaking?_cons, Segment.take?_word]
  by_cases remove : first = "remove"
  · subst remove
    rcases rest with _ | ⟨name, _ | ⟨third, rest⟩⟩ <;>
      simp [Node.callOf?, Node.children, Node.executor, Node.firstTaking?_cons, Segment.take?_word]
  · simp [list, add, remove]

theorem callOf?_toggle (words : List String) :
    toggle.root.callOf? sender words =
      match words with
      | [] => some (none, [])
      | [flag] => some (some showFlag, [("flag", .text flag)])
      | [flag, state] => (readBoolean state.toList).toOption.map fun value =>
          (some switchFlag, [("flag", .text flag), ("state", .boolean value)])
      | _ => none := by
  rw [root_toggle]
  rcases words with _ | ⟨flag, rest⟩
  · rfl
  rw [Node.callOf?]
  simp only [Node.children, Node.firstTaking?_cons, Segment.take?_word]
  rcases rest with _ | ⟨state, rest⟩
  · rfl
  simp only [Option.map_some, Option.some_or, Node.callOf?, Node.children,
    Node.firstTaking?_cons, Node.firstTaking?_nil, Segment.take?_boolean]
  cases rest with
  | nil =>
      change _ = (readBoolean state.toList).toOption.map _
      cases readBoolean state.toList <;> rfl
  | cons third rest => cases readBoolean state.toList <;> rfl

theorem readsWords_rosterCommand (world : World) :
    (rosterCommand world).root.Throughout fun node =>
      ∀ child ∈ node.children, child.segment.ReadsWords := by
  rw [root_rosterCommand]
  simp [Node.Throughout.node_iff, Node.children, Node.segment, Segment.ReadsWords]

theorem readsWords_toggle :
    toggle.root.Throughout fun node => ∀ child ∈ node.children, child.segment.ReadsWords := by
  rw [root_toggle]
  simp [Node.Throughout.node_iff, Node.children, Node.segment, Segment.ReadsWords]

/-! ### Harmless commands -/

/-- All executors of the tree are harmless. -/
def Harmless (node : Node Outcome) : Prop :=
  node.Throughout fun node => ∀ executor ∈ node.executor, ∀ context, (executor context).Harmless

theorem harmless_help (guide : Guide) : Harmless guide.help.root := by
  simp [Harmless, Guide.help, Draft.root, Draft.ofName, Draft.executing, Draft.withAlias,
    Draft.describedAs, Node.argument, Node.suggesting, Node.executing, Node.Throughout.node_iff,
    Node.executor, guide.harmless_list, guide.harmless_describe]

theorem harmless_echo : Harmless echo.root := by
  simp [Harmless, echo, Draft.root, Draft.ofName, Draft.withAlias, Draft.describedAs, Node.argument,
    Node.executing, Node.Throughout.node_iff, Node.executor, harmless_sayMessage]

theorem harmless_give (world : World) : Harmless (give world).root := by
  simp [Harmless, give, Draft.root, Draft.ofName, Draft.permittedBy, Draft.describedAs,
    Node.argument, Node.suggesting, Node.executing, Node.followedBy, Node.Throughout.node_iff,
    Node.executor, harmless_giveItems, harmless_giveCount]

theorem harmless_gamemode (world : World) : Harmless (gamemode world).root := by
  simp [Harmless, gamemode, gameModes, Draft.root, Draft.ofName, Draft.withAlias,
    Draft.permittedBy, Draft.describedAs, Node.literal, Node.argument, Node.suggesting,
    Node.executing, Node.followedBy, Node.Throughout.node_iff, Node.executor, harmless_setOwnMode,
    harmless_setMode]

theorem harmless_teleport (world : World) : Harmless (teleport world).root := by
  simp [Harmless, teleport, coordinates, Draft.root, Draft.ofName, Draft.withAlias,
    Draft.permittedBy, Draft.describedAs, Node.argument, Node.suggesting, Node.executing,
    Node.followedBy, Node.Throughout.node_iff, Node.executor, harmless_teleportTo,
    harmless_teleportTarget]

/-- A harmless command with other labels has nothing to do with the roster and the flags. -/
theorem means_of_harmless {command : Command Outcome} (labels : List String)
    (same : command.labels = labels) (others : "roster" ∉ labels ∧ "toggle" ∉ labels)
    (harmless : Harmless command.root) (resolved : command.resolve sender line = .ok call) :
    Means sender (words line.toList) call.run := by
  obtain ⟨label, rest, named, spelled⟩ := Command.words_of_resolve resolved
  have every := Command.executor_of_resolve harmless resolved
  rw [spelled]
  rw [same] at named
  refine .other ?_ ?_ (every call.context)
  · rintro rfl
    exact others.1 named
  · rintro rfl
    exact others.2 named

/-! ### All commands -/

theorem holds_of_not_rejects {command : Command Outcome} {permission : String}
    (usable : ¬ command.Rejects sender) (needed : command.heading.permission = some permission) :
    sender.holds permission := by
  by_contra lacking
  exact usable (.inl ⟨permission, needed, Bool.not_eq_true _ ▸ lacking⟩)

/-- Words behind the label of the roster command that lead to a call mean it. -/
theorem means_rosterCommand {words : List String} {executor : Executor Outcome}
    {arguments : Arguments} (allowed : sender.holds "cmdtree.roster")
    (leads : (rosterCommand world).root.callOf? sender words = some (some executor, arguments))
    (label : String) (heading : Heading) :
    Means sender ("roster" :: words) (executor ⟨sender, line, label, arguments, heading⟩) := by
  rw [callOf?_rosterCommand] at leads
  split at leads <;> cases leads
  · exact .list
  · exact .change rfl allowed (carriesOut_joinRoster rfl)
  · exact .change rfl allowed (carriesOut_leaveRoster rfl)

theorem means_toggle {words : List String} {executor : Executor Outcome}
    {arguments : Arguments} (allowed : sender.holds "cmdtree.toggle")
    (leads : toggle.root.callOf? sender words = some (some executor, arguments))
    (label : String) (heading : Heading) :
    Means sender ("toggle" :: words) (executor ⟨sender, line, label, arguments, heading⟩) := by
  rw [callOf?_toggle] at leads
  split at leads
  · cases leads
  · cases leads
    exact .flag rfl
  · rename_i flag state
    obtain ⟨value, given, same⟩ := Option.map_eq_some_iff.mp leads
    cases same
    have spelled : Change.ofWords? ["toggle", flag, state] = some (.switch flag value) := by
      rw [Change.ofWords?, given, Option.map_some]
    exact .change spelled allowed (carriesOut_switchFlag rfl rfl)
  · cases leads

/-- A command with one label means what the words behind the label lead to. -/
theorem means_of_words {command : Command Outcome} {name permission : String}
    (labels : command.labels = [name]) (needed : command.heading.permission = some permission)
    (readsWords : command.root.Throughout fun node =>
      ∀ child ∈ node.children, child.segment.ReadsWords)
    (means : ∀ {words executor arguments}, sender.holds permission →
      command.root.callOf? sender words = some (some executor, arguments) →
        ∀ label heading,
          Means sender (name :: words) (executor ⟨sender, line, label, arguments, heading⟩))
    (resolved : command.resolve sender line = .ok call) :
    Means sender (words line.toList) call.run := by
  have labelled := Labelled.ofLine line
  obtain ⟨admits, executor, arguments, leads, rfl⟩ :=
    (Command.resolve_eq_ok_iff_words labelled readsWords).mp resolved
  have known := admits.known
  rw [labels, List.mem_singleton] at known
  have nonempty := Command.ne_empty_of_mem_labels admits.known
  rw [labelled.words_eq_cons nonempty, known]
  exact means (holds_of_not_rejects admits.usable needed) leads _ _

/-- A line of a standard command that is called means what its words say. -/
theorem means_of_resolve {command : Command Outcome} (member : command ∈ world.commands)
    (resolved : command.resolve sender line = .ok call) :
    Means sender (words line.toList) call.run := by
  simp only [commands, List.mem_cons, List.not_mem_nil, or_false] at member
  rcases member with rfl | rfl | rfl | rfl | rfl | rfl | rfl
  · exact means_of_harmless ["help", "?"] rfl (by decide) (harmless_help guide) resolved
  · exact means_of_harmless ["echo", "say"] rfl (by decide) harmless_echo resolved
  · exact means_of_harmless ["give"] rfl (by decide) (harmless_give world) resolved
  · exact means_of_harmless ["gamemode", "gm"] rfl (by decide) (harmless_gamemode world) resolved
  · exact means_of_harmless ["teleport", "tp"] rfl (by decide) (harmless_teleport world) resolved
  · exact means_of_words rfl rfl (readsWords_rosterCommand world) means_rosterCommand resolved
  · exact means_of_words rfl rfl readsWords_toggle means_toggle resolved

theorem not_rejects_of_holds {command : Command Outcome} {permission : String}
    (needed : command.heading.permission = some permission) (unrequired : command.requirement = none)
    (allowed : sender.holds permission) : ¬ command.Rejects sender := by
  rintro (⟨other, same, lacking⟩ | ⟨requirement, same, _⟩)
  · rw [needed] at same
    obtain rfl := Option.some.inj same
    rw [allowed] at lacking
    cases lacking
  · rw [unrequired] at same
    cases same

/-- Who has the permission of a command reaches what the words behind its label lead to. -/
theorem exists_call {command : Command Outcome} {permission : String}
    (member : command ∈ world.commands) (labelled : Labelled line label behind)
    (named : label ∈ command.labels) (needed : command.heading.permission = some permission)
    (unrequired : command.requirement = none) (allowed : sender.holds permission)
    (readsWords : command.root.Throughout fun node =>
      ∀ child ∈ node.children, child.segment.ReadsWords)
    {given : List String} (told : words behind.remaining = given)
    {executor : Executor Outcome} {arguments : Arguments}
    (leads : command.root.callOf? sender given = some (some executor, arguments)) :
    ∃ command ∈ world.commands, label ∈ command.labels ∧
      ∃ call, command.resolve sender line = .ok call := by
  have usable := not_rejects_of_holds needed unrequired allowed
  rw [← told] at leads
  exact ⟨command, member, named, _, (Command.resolve_eq_ok_iff_words labelled readsWords).mpr
    ⟨⟨labelled, named, usable⟩, executor, arguments, leads, rfl⟩⟩

/-- Who is allowed to change the world reaches an act by the words that spell the change. -/
theorem exists_call_of_change {change : Change} (labelled : Labelled line label behind)
    (nonempty : label ≠ "") (spelled : Change.ofWords? (words line.toList) = some change)
    (allowed : sender.holds change.permission) :
    ∃ command ∈ world.commands, label ∈ command.labels ∧
      ∃ call, command.resolve sender line = .ok call := by
  have rosterMember : ⟨rosterCommand world, sound_rosterCommand world⟩ ∈ world.commands := by
    simp [commands]
  have toggleMember : ⟨toggle, rfl⟩ ∈ world.commands := by
    simp [commands]
  have readsWords := readsWords_rosterCommand world
  have split := labelled.words_eq_cons nonempty
  have told := Change.words_of_spelled spelled
  cases change with
  | join name =>
      obtain ⟨rfl, told⟩ := List.cons.inj (split.symm.trans told)
      have leads : (rosterCommand world).root.callOf? sender ["add", name] =
          some (some joinRoster, [("name", .text name)]) := callOf?_rosterCommand ["add", name]
      exact exists_call rosterMember labelled (List.mem_singleton_self _) rfl rfl allowed readsWords
        told leads
  | leave name =>
      obtain ⟨rfl, told⟩ := List.cons.inj (split.symm.trans told)
      have leads : (rosterCommand world).root.callOf? sender ["remove", name] =
          some (some leaveRoster, [("name", .text name)]) := callOf?_rosterCommand ["remove", name]
      exact exists_call rosterMember labelled (List.mem_singleton_self _) rfl rfl allowed readsWords
        told leads
  | switch flag value =>
      obtain ⟨state, told, given⟩ := told
      obtain ⟨rfl, told⟩ := List.cons.inj (split.symm.trans told)
      have leads : toggle.root.callOf? sender [flag, state] =
          some (some switchFlag, [("flag", .text flag), ("state", .boolean value)]) :=
        (callOf?_toggle [flag, state]).trans (congrArg (Option.map _) given)
      exact exists_call toggleMember labelled (List.mem_singleton_self _) rfl rfl allowed
        readsWords_toggle told leads

end World

end CommandShell
