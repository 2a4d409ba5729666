/-
This file says what registering commands one after another leads to. Labels tell the commands of a
registry apart, so that a line is passed on to the one command that its first word names.
-/

import CommandShell.Proofs.Answer
import CommandShell.Proofs.Registry

namespace CommandShell

open Text

namespace Registry

variable {ω : Type} {registry after : Registry ω} {command : Command ω} {label : String}
  {place : Nat}

/-! ### Finding commands -/

theorem filter_eq_singleton {α : Type} {list : List α} {holds : α → Bool} {found : α}
    (atPlace : list[place]? = some found) (own : holds found)
    (unique : ∀ other (otherPlace : Nat), list[otherPlace]? = some other → holds other →
      otherPlace = place) : list.filter holds = [found] := by
  induction list generalizing place with
  | nil => cases atPlace
  | cons first rest inductionHypothesis =>
      cases place with
      | zero =>
          obtain rfl : first = found := Option.some.inj atPlace
          rw [List.filter_cons_of_pos own, List.filter_eq_nil_iff.mpr]
          intro other member otherHolds
          obtain ⟨otherPlace, otherFound⟩ := List.mem_iff_getElem?.mp member
          exact absurd (unique other (otherPlace + 1) otherFound otherHolds) (by omega)
      | succ place =>
          have notFirst : ¬ holds first := fun firstHolds =>
            absurd (unique first 0 rfl firstHolds) (by omega)
          rw [List.filter_cons_of_neg notFirst]
          refine inductionHypothesis atPlace fun other otherPlace otherFound otherHolds => ?_
          have same := unique other (otherPlace + 1) otherFound otherHolds
          omega

/-- Of all commands only the one that is found has the label. -/
theorem Consistent.filter_hasLabel (consistent : registry.Consistent) (label : String) :
    (registry.commands.filter fun command => command.hasLabel label) =
      (registry.find? label).toList := by
  cases found : registry.find? label with
  | none =>
      rw [consistent.find?_eq_none_iff] at found
      refine List.filter_eq_nil_iff.mpr fun command member named => ?_
      exact found ⟨command, member, Command.hasLabel_iff.mp named⟩
  | some command =>
      obtain ⟨place, atPlace, named⟩ := consistent.find?_eq_some_iff.mp found
      refine filter_eq_singleton atPlace (Command.hasLabel_iff.mpr named) ?_
      intro other otherPlace otherFound otherNamed
      exact consistent.place_eq otherFound (Command.hasLabel_iff.mp otherNamed) atPlace named

/-! ### Registering commands -/

/-- A command clashes with a registry at its first label that is taken. -/
def Clashes (registry : Registry ω) (command : Command ω) (label : String) : Prop :=
  ∃ before behind, command.labels = before ++ label :: behind ∧ registry.Taken label ∧
    ∀ other ∈ before, ¬ registry.Taken other

theorem clashes_iff (consistent : registry.Consistent) : registry.Clashes command label ↔
    command.labels.find? (fun label => (registry.index.lookup label).isSome) = some label := by
  rw [List.find?_eq_some_iff_append, Clashes, consistent.lookup_isSome_iff]
  simp only [Bool.not_eq_true', ← Bool.not_eq_true, consistent.lookup_isSome_iff]
  constructor
  · rintro ⟨before, behind, split, taken, free⟩
    exact ⟨taken, before, behind, split, free⟩
  · rintro ⟨taken, before, behind, split, free⟩
    exact ⟨before, behind, split, taken, free⟩

theorem register_eq_error_iff (consistent : registry.Consistent) {error : BuildError} :
    (registry.register command).1 = .error error ↔
      ∃ label, registry.Clashes command label ∧ error = .duplicateLabel label := by
  simp only [clashes_iff consistent]
  unfold register
  split
  · rename_i label found
    simp [found, eq_comm]
  · rename_i free
    simp [free]

/-- A command is refused exactly if one of its labels is taken. -/
theorem register_fails_iff (consistent : registry.Consistent) :
    (∃ error, (registry.register command).1 = .error error) ↔
      ∃ label ∈ command.labels, registry.Taken label := by
  constructor
  · rintro ⟨error, refused⟩
    obtain ⟨label, ⟨before, behind, split, taken, _⟩, _⟩ :=
      (register_eq_error_iff consistent).mp refused
    exact ⟨label, split ▸ List.mem_append_right before List.mem_cons_self, taken⟩
  · rintro ⟨label, named, taken⟩
    cases called : registry.register command with
    | mk result after =>
        cases result with
        | error error => exact ⟨error, rfl⟩
        | ok =>
            have unused := (register_eq_ok called).1 label named
            have used := consistent.lookup_isSome_iff.mpr taken
            rw [unused] at used
            cases used

/-- This is what many calls leave, some of which may be refused. -/
def registerAll (registry : Registry ω) (commands : List (Command ω)) : Registry ω :=
  commands.foldl (fun registry command => (registry.register command).2) registry

theorem Reachable.registerAll (reachable : registry.Reachable) (calls : List (Command ω)) :
    (registry.registerAll calls).Reachable := by
  induction calls generalizing registry with
  | nil => exact reachable
  | cons command rest inductionHypothesis =>
      rw [Registry.registerAll, List.foldl_cons]
      exact inductionHypothesis (.register reachable rfl)

end Registry

/-! ### Passing lines on -/

/-- A command does not call its own label unknown. -/
theorem Command.resolve_ne_unknownCommand {ω : Type} {command : Command ω} {line label : String}
    {behind : Cursor} (labelled : Labelled line label behind) (named : label ∈ command.labels)
    (sender : Sender) (other : String) :
    command.resolve sender line ≠ .error (.unknownCommand other) := by
  intro resolved
  obtain ⟨outcome, answers⟩ := command.exists_answer sender line
  rw [resolve_of_answers answers] at resolved
  subst resolved
  cases answers with
  | unknownCommand otherLabelled unknown =>
      obtain ⟨rfl, _⟩ := labelled.unique otherLabelled
      exact unknown named

namespace Registry

variable {ω : Type} {registry : Registry ω} {command : Command ω} {line label : String}
  {behind : Cursor}

theorem Consistent.resolve_of_free (consistent : registry.Consistent)
    (labelled : Labelled line label behind) (free : ¬ registry.Taken label) (sender : Sender) :
    registry.resolve sender line = .error (.unknownCommand label) := by
  obtain ⟨rfl, _⟩ := Labelled.iff_eq.mp labelled
  rw [resolve, consistent.find?_eq_none_iff.mpr free]

theorem Consistent.resolve_of_owner (consistent : registry.Consistent)
    (labelled : Labelled line label behind) (member : command ∈ registry.commands)
    (named : label ∈ command.labels) (sender : Sender) :
    registry.resolve sender line = command.resolve sender line := by
  obtain ⟨rfl, _⟩ := Labelled.iff_eq.mp labelled
  rw [resolve, consistent.find?_of_mem member named]

theorem execute_eq_error_iff {sender : Sender} {error : DispatchError} :
    registry.execute sender line = .error error ↔ registry.resolve sender line = .error error := by
  unfold execute
  cases registry.resolve sender line <;> simp [Except.map]

theorem Consistent.execute_unknownCommand_iff (consistent : registry.Consistent)
    (labelled : Labelled line label behind) (sender : Sender) :
    (∃ other, registry.execute sender line = .error (.unknownCommand other)) ↔
      ¬ registry.Taken label := by
  constructor
  · rintro ⟨other, unknown⟩ ⟨command, member, named⟩
    rw [execute_eq_error_iff, consistent.resolve_of_owner labelled member named] at unknown
    exact Command.resolve_ne_unknownCommand labelled named sender other unknown
  · intro free
    exact ⟨label, execute_eq_error_iff.mpr (consistent.resolve_of_free labelled free sender)⟩

/-- Whatever commands are registered, and whichever of them are refused, the index leads from each
label to its one command, and lines are passed on to the command that their first word names. -/
theorem registerAll_tells_apart (calls : List (Command ω)) :
    let registry := (empty : Registry ω).registerAll calls
    registry.Consistent ∧
    (∀ label, (registry.commands.filter fun command => command.hasLabel label) =
      (registry.find? label).toList) ∧
    (∀ command, (∃ error, (registry.register command).1 = .error error) ↔
      ∃ label ∈ command.labels, registry.Taken label) ∧
    (∀ command error after, registry.register command = (.error error, after) →
      (∃ label, registry.Clashes command label ∧ error = .duplicateLabel label) ∧
      after.commands = registry.commands ∧ after.index = registry.index) ∧
    (∀ command after, registry.register command = (.ok (), after) →
      after.commands = registry.commands ++ [command] ∧
      after.index = registry.index ++ command.labels.map (·, registry.commands.length)) ∧
    ∀ sender line label behind, Labelled line label behind →
      ((∃ other, registry.execute sender line = .error (.unknownCommand other)) ↔
        ¬ registry.Taken label) ∧
      (¬ registry.Taken label → registry.execute sender line = .error (.unknownCommand label)) ∧
      ∀ command ∈ registry.commands, label ∈ command.labels →
        registry.execute sender line = command.execute sender line ∧
        ∀ other, command.execute sender line ≠ .error (.unknownCommand other) := by
  intro registry
  have consistent : registry.Consistent := (Reachable.empty.registerAll calls).consistent
  refine ⟨consistent, consistent.filter_hasLabel, fun _ => register_fails_iff consistent,
    ?_, ?_, ?_⟩
  · intro command error after refused
    obtain rfl := register_eq_error refused
    exact ⟨(register_eq_error_iff consistent).mp (congrArg Prod.fst refused), rfl, rfl⟩
  · intro command after registered
    exact (register_eq_ok registered).2
  · intro sender line label behind labelled
    refine ⟨consistent.execute_unknownCommand_iff labelled sender, fun free => ?_, ?_⟩
    · exact execute_eq_error_iff.mpr (consistent.resolve_of_free labelled free sender)
    · intro command member named
      have same := consistent.resolve_of_owner labelled member named sender
      have passed : registry.execute sender line = command.execute sender line :=
        congrArg (·.map Call.run) same
      refine ⟨passed, fun other unknown => ?_⟩
      rw [← passed, execute_eq_error_iff, same] at unknown
      exact Command.resolve_ne_unknownCommand labelled named sender other unknown

def tell : Command String where
  toDraft := ((Draft.ofName "tell" []).withAlias "msg").executing Context.label
  sound := by decide

def mail : Command String where
  toDraft := ((Draft.ofName "mail" []).withAlias "post").withAlias "msg"
  sound := by decide

def post : Command String where
  toDraft := Draft.ofName "post" []
  sound := by decide

/-- A command that clashes at its last label leaves its other labels free. -/
theorem registerAll_late_clash :
    let registry := (empty : Registry String).registerAll [tell]
    let sender : Sender := ⟨"console", [], false⟩
    registry.register mail = (.error (.duplicateLabel "msg"), registry) ∧
      (∃ label, registry.Clashes mail label ∧
        BuildError.duplicateLabel "msg" = .duplicateLabel label) ∧
      (∃ after, registry.register post = (.ok (), after) ∧ after.commands = [tell, post] ∧
        after.index = [("tell", 0), ("msg", 0), ("post", 1)]) ∧
      Labelled "post" "post" ⟨"post".toList, []⟩ ∧ ¬ registry.Taken "post" ∧
      registry.execute sender "post" = .error (.unknownCommand "post") ∧
      Labelled "msg" "msg" ⟨"msg".toList, []⟩ ∧ tell ∈ registry.commands ∧ "msg" ∈ tell.labels ∧
      registry.execute sender "msg" = tell.execute sender "msg" ∧
      tell.execute sender "msg" = .ok "msg" := by
  intro registry sender
  obtain ⟨_, _, _, refused, registered, lines⟩ := registerAll_tells_apart [tell]
  have clash : registry.register mail = (.error (.duplicateLabel "msg"), registry) := rfl
  have second : registry.register post =
      (.ok (), ⟨[tell, post], [("tell", 0), ("msg", 0), ("post", 1)]⟩) := rfl
  have typed (command : Command String) (label : String) (named : label ∈ command.labels) :
      Labelled label label ⟨label.toList, []⟩ :=
    .of_append (solid_of_isWord (Command.isWord_of_mem_labels named)) (List.append_nil _).symm rfl
  have free : ¬ registry.Taken "post" := by
    rintro ⟨command, member, named⟩
    obtain rfl := List.mem_singleton.mp member
    exact absurd named (by decide)
  have post_typed := typed post "post" (by decide)
  have msg_typed := typed tell "msg" (by decide)
  have member : tell ∈ registry.commands := List.mem_singleton_self tell
  have named : "msg" ∈ tell.labels := by decide
  have unknown := (lines sender _ _ _ post_typed).2.1 free
  have owned := (lines sender _ _ _ msg_typed).2.2 tell member named
  exact ⟨clash, (refused mail _ _ clash).1, ⟨_, second, registered post _ second⟩, post_typed,
    free, unknown, msg_typed, member, named, owned.1, rfl⟩

end Registry

end CommandShell
