/-
This file shows that the index of a registry leads from the labels of its commands to the commands
and from nothing else. Registering a command keeps this, as no label may name two commands.
-/

import CommandShell.Proofs.Labels
import CommandShell.Registry

namespace CommandShell

open Text

/-- All labels of a command are words. -/
theorem Command.isWord_of_mem_labels {ω : Type} {command : Command ω} {label : String}
    (member : label ∈ command.labels) : isWord label.toList := by
  obtain ⟨rootSound, aliasesSound⟩ := Option.or_eq_none_iff.mp command.sound
  rcases List.mem_cons.mp member with rfl | later
  · rw [Draft.root, Node.violation?, Option.or_eq_none_iff] at rootSound
    have nameSound : (Segment.literal command.heading.name).violation? [] _ = none := rootSound.1
    simpa [Segment.violation?] using nameSound
  · exact isWord_iff_isLabel.mpr ((Draft.labelViolation?_eq_none_iff.mp aliasesSound).1 label later)

/-- No label of a command occurs twice. -/
theorem Command.nodup_labels {ω : Type} (command : Command ω) : command.labels.Nodup := by
  have sound := Draft.labelViolation?_eq_none_iff.mp (Option.or_eq_none_iff.mp command.sound).2
  exact command.toDraft.nodup_labels_iff.mpr sound.2

namespace Registry

variable {ω : Type} {registry after : Registry ω} {command : Command ω} {label : String}
  {place : Nat}

/-- These registries are left when commands were registered one after another, some of which may
have been refused. -/
inductive Reachable : Registry ω → Prop where
  | empty : Reachable empty
  | register {registry after : Registry ω} {command : Command ω} {result : Except BuildError Unit}
      (earlier : Reachable registry) (called : registry.register command = (result, after)) :
      Reachable after

/-- A label that leads nowhere is entered behind all others. -/
theorem enter_of_missing {index : List (String × Nat)} (missing : label ∉ index.map Prod.fst) :
    enter place label index = index ++ [(label, place)] := by
  induction index with
  | nil => rfl
  | cons entry rest inductionHypothesis =>
      rw [List.map_cons, List.mem_cons, not_or] at missing
      rw [enter, if_neg (Ne.symm missing.1), inductionHypothesis missing.2, List.cons_append]

/-- Distinct labels that lead nowhere are entered behind all others, in their order. -/
theorem foldl_enter {labels : List String} {index : List (String × Nat)}
    (distinct : labels.Nodup) (missing : ∀ label ∈ labels, label ∉ index.map Prod.fst) :
    labels.foldl (fun index label => enter place label index) index =
      index ++ labels.map (·, place) := by
  induction labels generalizing index with
  | nil => simp
  | cons label rest inductionHypothesis =>
      obtain ⟨new, distinct⟩ := List.nodup_cons.mp distinct
      rw [List.foldl_cons, enter_of_missing (missing label List.mem_cons_self),
        inductionHypothesis distinct ?_, List.append_assoc]
      · rfl
      · intro other member
        rw [List.map_append, List.mem_append, not_or]
        refine ⟨missing other (List.mem_cons_of_mem _ member), ?_⟩
        rintro known
        obtain rfl : other = label := by simpa using known
        exact new member

theorem lookup_eq_none_iff {index : List (String × Nat)} :
    index.lookup label = none ↔ label ∉ index.map Prod.fst := by
  rw [List.lookup_eq_none_iff, List.mem_map]
  constructor
  · rintro missing ⟨entry, member, rfl⟩
    exact absurd (missing entry member) (by simp)
  · intro missing entry member
    exact bne_iff_ne.mpr fun same => missing ⟨entry, member, same.symm⟩

/-- A command that is registered has new labels, and is put behind the others with them. -/
theorem register_eq_ok (registered : registry.register command = (.ok (), after)) :
    (∀ label ∈ command.labels, registry.index.lookup label = none) ∧
      after.commands = registry.commands ++ [command] ∧
      after.index = registry.index ++ command.labels.map (·, registry.commands.length) := by
  unfold register at registered
  split at registered
  · cases registered
  · rename_i unused
    cases registered
    have missing (label : String) (member : label ∈ command.labels) :
        registry.index.lookup label = none := by
      rw [← Option.not_isSome_iff_eq_none]
      exact List.find?_eq_none.mp unused label member
    exact ⟨missing, rfl, foldl_enter command.nodup_labels fun label member =>
      lookup_eq_none_iff.mp (missing label member)⟩

/-- A command that is refused leaves the registry as it is. -/
theorem register_eq_error {error : BuildError}
    (refused : registry.register command = (.error error, after)) : after = registry := by
  unfold register at refused
  split at refused
  · cases refused
    rfl
  · cases refused

theorem accept_eq_ok_iff :
    registry.accept command = .ok after ↔ registry.register command = (.ok (), after) := by
  unfold accept
  split
  · rename_i left called
    rw [called, Except.ok.injEq, Prod.mk.injEq]
    exact (and_iff_right rfl).symm
  · rename_i error left called
    rw [called]
    exact iff_of_false nofun nofun

/-! ### The index -/

/-- The index leads from the labels of each command to its place, and from nothing else, and all
these labels are distinct. -/
structure Consistent (registry : Registry ω) : Prop where
  lookup_iff : ∀ label place, registry.index.lookup label = some place ↔
    ∃ command, registry.commands[place]? = some command ∧ label ∈ command.labels
  keys : registry.index.map Prod.fst = registry.commands.flatMap fun command => command.labels
  distinct : (registry.index.map Prod.fst).Nodup

/-- A label is taken if a command of the registry has it. -/
def Taken (registry : Registry ω) (label : String) : Prop :=
  ∃ command ∈ registry.commands, label ∈ command.labels

theorem Consistent.lookup_isSome_iff (consistent : registry.Consistent) :
    (registry.index.lookup label).isSome ↔ registry.Taken label := by
  rw [Option.isSome_iff_exists]
  constructor
  · rintro ⟨place, found⟩
    obtain ⟨command, at_place, named⟩ := (consistent.lookup_iff label place).mp found
    exact ⟨command, List.mem_of_getElem? at_place, named⟩
  · rintro ⟨command, member, named⟩
    obtain ⟨place, at_place⟩ := List.mem_iff_getElem?.mp member
    exact ⟨place, (consistent.lookup_iff label place).mpr ⟨command, at_place, named⟩⟩

theorem consistent_empty : (empty : Registry ω).Consistent where
  lookup_iff label place := by simp [empty]
  keys := rfl
  distinct := List.nodup_nil

theorem lookup_map_label {labels : List String} (member : label ∈ labels) :
    (labels.map (·, place)).lookup label = some place := by
  induction labels with
  | nil => cases member
  | cons first rest inductionHypothesis =>
      rw [List.map_cons, List.lookup_cons]
      by_cases same : label = first
      · simp [same]
      · have later := (List.mem_cons.mp member).resolve_left same
        rw [beq_eq_false_iff_ne.mpr same]
        exact inductionHypothesis later

theorem lookup_map_eq_some_iff {labels : List String} {other : Nat} :
    (labels.map (·, place)).lookup label = some other ↔ label ∈ labels ∧ other = place := by
  by_cases member : label ∈ labels
  · rw [lookup_map_label member]
    simp [member, eq_comm]
  · have missing : (labels.map (·, place)).lookup label = none :=
      lookup_eq_none_iff.mpr (by simpa using member)
    simp [missing, member]

theorem getElem?_concat_eq_some_iff {α : Type} {list : List α} {last found : α} :
    (list ++ [last])[place]? = some found ↔
      list[place]? = some found ∨ place = list.length ∧ last = found := by
  rcases Nat.lt_trichotomy place list.length with inside | rfl | outside
  · have differs : place ≠ list.length := Nat.ne_of_lt inside
    simp [List.getElem?_append_left inside, differs]
  · simp
  · have differs : place ≠ list.length := Nat.ne_of_gt outside
    have nothing : (list ++ [last])[place]? = none := by
      rw [List.getElem?_eq_none_iff, List.length_append, List.length_singleton]
      omega
    simp [nothing, List.getElem?_eq_none (Nat.le_of_lt outside), differs]

/-- Registering a command keeps the index consistent. -/
theorem consistent_register (consistent : registry.Consistent)
    (registered : registry.register command = (.ok (), after)) : after.Consistent := by
  obtain ⟨unused, commands, index⟩ := register_eq_ok registered
  have keys : after.index.map Prod.fst = registry.index.map Prod.fst ++ command.labels := by
    rw [index, List.map_append, List.map_map]
    simp [Function.comp_def]
  refine ⟨fun label place => ?_, ?_, ?_⟩
  · have fresh : registry.index.lookup label = none ∧ label ∈ command.labels ↔
        label ∈ command.labels := and_iff_right_of_imp (unused label)
    rw [commands, index, List.lookup_append, Option.or_eq_some_iff, lookup_map_eq_some_iff,
      ← and_assoc, fresh, consistent.lookup_iff]
    simp only [getElem?_concat_eq_some_iff, or_and_right, exists_or]
    refine or_congr_right ?_
    constructor
    · rintro ⟨named, last⟩
      exact ⟨command, ⟨last, rfl⟩, named⟩
    · rintro ⟨_, ⟨last, rfl⟩, named⟩
      exact ⟨named, last⟩
  · rw [keys, consistent.keys, commands]
    simp
  · rw [keys, List.nodup_append]
    refine ⟨consistent.distinct, command.nodup_labels, ?_⟩
    rintro label member _ named rfl
    exact lookup_eq_none_iff.mp (unused label named) member

theorem Reachable.consistent (reachable : registry.Reachable) : registry.Consistent := by
  induction reachable with
  | empty => exact consistent_empty
  | @register _ _ _ result _ called inductionHypothesis =>
      cases result with
      | ok => exact consistent_register inductionHypothesis called
      | error error => exact register_eq_error called ▸ inductionHypothesis

/-! ### Finding commands -/

namespace Consistent

variable (consistent : registry.Consistent)

include consistent

theorem find?_eq_some_iff :
    registry.find? label = some command ↔
      ∃ place : Nat, registry.commands[place]? = some command ∧ label ∈ command.labels := by
  rw [find?, Option.bind_eq_some_iff]
  refine exists_congr fun place => ?_
  rw [consistent.lookup_iff]
  constructor
  · rintro ⟨⟨other, found, named⟩, same⟩
    obtain rfl : other = command := Option.some.inj (found.symm.trans same)
    exact ⟨same, named⟩
  · rintro ⟨found, named⟩
    exact ⟨⟨command, found, named⟩, found⟩

/-- A command is found by each of its labels. -/
theorem find?_of_mem (member : command ∈ registry.commands) (named : label ∈ command.labels) :
    registry.find? label = some command := by
  obtain ⟨place, atPlace⟩ := List.mem_iff_getElem?.mp member
  exact consistent.find?_eq_some_iff.mpr ⟨place, atPlace, named⟩

theorem find?_eq_none_iff : registry.find? label = none ↔ ¬ registry.Taken label := by
  rw [Option.eq_none_iff_forall_ne_some]
  constructor
  · rintro missing ⟨command, member, named⟩
    exact missing command (consistent.find?_of_mem member named)
  · rintro free command found
    obtain ⟨place, at_place, named⟩ := consistent.find?_eq_some_iff.mp found
    exact free ⟨command, List.mem_of_getElem? at_place, named⟩

theorem place_eq {other : Command ω} {otherPlace : Nat}
    (found : registry.commands[place]? = some command) (named : label ∈ command.labels)
    (otherFound : registry.commands[otherPlace]? = some other) (otherNamed : label ∈ other.labels) :
    place = otherPlace := by
  have first := (consistent.lookup_iff label place).mpr ⟨command, found, named⟩
  have second := (consistent.lookup_iff label otherPlace).mpr ⟨other, otherFound, otherNamed⟩
  exact Option.some.inj (first.symm.trans second)

end Consistent

theorem mem_of_find?_eq_some (found : registry.find? label = some command) :
    command ∈ registry.commands := by
  obtain ⟨place, _, at_place⟩ := Option.bind_eq_some_iff.mp found
  exact List.mem_of_getElem? at_place

end Registry

end CommandShell
