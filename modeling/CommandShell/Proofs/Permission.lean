/-
This file says what a sender is permitted to do. A grant covers the permission that it names, and
with a star behind its last dot it covers all permissions below. Whoever is granted more keeps what
was permitted, and is shown at least as much of each command that asks for nothing but permissions.
-/

import CommandShell.Proofs.Arrangement
import CommandShell.Proofs.Documentation

namespace CommandShell

open Text

namespace Sender

/-! ### Holding a permission -/

/-- A permission is cut off at its last dot again and again, until no dot is left. These are the
parts that are visited on the way. -/
inductive Climbs : List Char → List (List Char) → Prop where
  | top {permission : List Char} (undotted : '.' ∉ permission) : Climbs permission []
  | up {above last : List Char} {visited : List (List Char)} (undotted : '.' ∉ last)
      (climbs : Climbs above visited) : Climbs (above ++ '.' :: last) (above :: visited)

variable {permission ancestor : List Char} {visited : List (List Char)}

/-- Each dot of a permission is visited. -/
theorem Climbs.mem_iff (climbs : Climbs permission visited) :
    ancestor ∈ visited ↔ ∃ below, permission = ancestor ++ '.' :: below := by
  induction climbs with
  | top undotted =>
      refine iff_of_false List.not_mem_nil ?_
      rintro ⟨below, rfl⟩
      simp at undotted
  | @up above last visited undotted _ inductionHypothesis =>
      rw [List.mem_cons, inductionHypothesis]
      constructor
      · rintro (rfl | ⟨below, rfl⟩)
        · exact ⟨last, rfl⟩
        · exact ⟨below ++ '.' :: last, by rw [List.append_assoc, List.cons_append]⟩
      -- No dot stands behind the last one, so that the other dots are those of the part before it.
      · rintro ⟨below, split⟩
        rcases List.append_eq_append_iff.mp split with ⟨more, rfl, behind⟩ | ⟨more, rfl, behind⟩
        · rcases List.cons_eq_append_iff.mp behind with ⟨rfl, _⟩ | ⟨between, rfl, rfl⟩
          · exact .inl (List.append_nil _)
          · simp at undotted
        · rcases List.cons_eq_append_iff.mp behind with ⟨rfl, _⟩ | ⟨between, rfl, _⟩
          · exact .inl (List.append_nil _).symm
          · exact .inr ⟨between, rfl⟩

/-- A character in front is visited with each part, and by itself if it is a dot. -/
theorem Climbs.cons (climbs : Climbs permission visited) (char : Char) :
    Climbs (char :: permission)
      (visited.map (char :: ·) ++ if char = '.' then [[]] else []) := by
  induction climbs with
  | @top permission undotted =>
      by_cases dot : char = '.'
      · subst dot
        exact .up undotted (.top List.not_mem_nil)
      · rw [if_neg dot]
        exact .top fun member => (List.mem_cons.mp member).elim (fun same => dot same.symm) undotted
  | up undotted _ inductionHypothesis => exact .up undotted inductionHypothesis

theorem climbs_ancestors (permission : List Char) :
    Climbs permission (ancestors permission).reverse := by
  induction permission with
  | nil => exact .top List.not_mem_nil
  | cons char rest inductionHypothesis =>
      have climbs := inductionHypothesis.cons char
      rw [List.map_reverse] at climbs
      by_cases dot : char = '.' <;> simpa [ancestors, dot] using climbs

theorem mem_ancestors_iff :
    ancestor ∈ ancestors permission ↔ ∃ below, permission = ancestor ++ '.' :: below := by
  rw [← List.mem_reverse, (climbs_ancestors permission).mem_iff]

variable {sender other : Sender}

theorem isGranted_iff : sender.isGranted permission ↔ String.ofList permission ∈ sender.grants := by
  rw [isGranted, List.any_eq_true]
  constructor
  · rintro ⟨grant, member, same⟩
    rwa [← of_decide_eq_true same, String.ofList_toList]
  · intro member
    exact ⟨_, member, decide_eq_true String.toList_ofList⟩

/-- Some grant covers the permissions below a part of this one. -/
theorem any_ancestors_iff {permission : String} :
    ((ancestors permission.toList).any fun ancestor => sender.isGranted (ancestor ++ ['.', '*'])) ↔
      ∃ above below, permission = above ++ "." ++ below ∧ above ++ ".*" ∈ sender.grants := by
  simp only [List.any_eq_true, mem_ancestors_iff, isGranted_iff]
  constructor
  · rintro ⟨ancestor, ⟨below, split⟩, granted⟩
    refine ⟨String.ofList ancestor, String.ofList below, String.toList_inj.mp ?_, ?_⟩
    · simp [split]
    · rwa [String.ofList_append] at granted
  · rintro ⟨above, below, rfl, granted⟩
    refine ⟨above.toList, ⟨below.toList, by simp⟩, ?_⟩
    rwa [String.ofList_append, String.ofList_toList]

theorem holds_iff {permission : String} :
    sender.holds permission ↔ sender.operator ∨ permission = "" ∨ permission ∈ sender.grants ∨
      "*" ∈ sender.grants ∨
      ∃ above below, permission = above ++ "." ++ below ∧ above ++ ".*" ∈ sender.grants := by
  simp only [holds, Bool.or_eq_true, any_ancestors_iff, isGranted_iff, String.isEmpty_iff,
    String.ofList_toList, or_assoc]

/-- What is granted to one sender is granted to the other. -/
structure Within (sender other : Sender) : Prop where
  grants : ∀ grant ∈ sender.grants, grant ∈ other.grants
  operator : sender.operator → other.operator

namespace Within

variable (within : sender.Within other)

include within

theorem holds {permission : String} (holds : sender.holds permission) :
    other.holds permission := by
  rw [holds_iff] at holds ⊢
  rcases holds with operator | empty | granted | star | ⟨above, below, split, granted⟩
  · exact .inl (within.operator operator)
  · exact .inr (.inl empty)
  · exact .inr (.inr (.inl (within.grants _ granted)))
  · exact .inr (.inr (.inr (.inl (within.grants _ star))))
  · exact .inr (.inr (.inr (.inr ⟨above, below, split, within.grants _ granted⟩)))

end Within

end Sender

/-! ### Trees that ask for permissions -/

/-- Nothing but a permission decides who sees the node. -/
def Node.AsksPermission {ω : Type} (node : Node ω) : Prop :=
  ∀ requirement ∈ node.requirement, ∃ permission,
    requirement = fun sender => sender.holds permission

@[simp]
theorem Node.asksPermission_none {ω : Type} {segment : Segment} {executor : Option (Executor ω)}
    {children : List (Node ω)} : (Node.node segment executor none children).AsksPermission :=
  fun _ member => nomatch member

@[simp]
theorem Node.asksPermission_holds {ω : Type} {segment : Segment} {executor : Option (Executor ω)}
    {children : List (Node ω)} {permission : String} :
    (Node.node segment executor (some fun sender => sender.holds permission)
      children).AsksPermission :=
  fun _ member => ⟨permission, (Option.some.inj member).symm⟩

variable {ω : Type} {sender other : Sender}

namespace Sender.Within

variable (within : sender.Within other)

include within

theorem visibleTo {node : Node ω} (asks : node.AsksPermission) (visible : node.visibleTo sender) :
    node.visibleTo other := by
  rw [Node.visibleTo, Option.all_eq_true] at visible ⊢
  intro requirement member
  have met := visible requirement member
  obtain ⟨permission, rfl⟩ := asks requirement member
  exact within.holds met

theorem isDocumented {root : Node ω} {site : Site ω} (asks : root.Throughout Node.AsksPermission)
    (hasSite : root.HasSite site) (documented : site.isDocumented sender) :
    site.isDocumented other := by
  rw [Site.isDocumented_iff] at documented ⊢
  refine ⟨fun node member => within.visibleTo ?_ (documented.1 node member), documented.2⟩
  exact hasSite.forall_mem_path asks node (List.mem_of_mem_tail member)

/-- The lines that the one sender is told of are among those that the other is told of. -/
theorem executableLines {root : Node ω} (asks : root.Throughout Node.AsksPermission)
    (lead : String) :
    (root.executableLines sender lead).Sublist (root.executableLines other lead) := by
  have among : root.sites.filter (Site.isDocumented sender) =
      (root.sites.filter (Site.isDocumented other)).filter (Site.isDocumented sender) := by
    rw [List.filter_filter]
    refine List.filter_congr fun site member => ?_
    have hasSite := Node.mem_sites_iff.mp member
    cases documented : site.isDocumented sender with
    | false => rfl
    | true => rw [within.isDocumented asks hasSite documented, Bool.and_self]
  rw [Node.executableLines_eq, Node.executableLines_eq, among]
  exact List.filter_sublist.map _

variable {command : Command ω} (asks : command.root.Throughout Node.AsksPermission)

include asks

theorem usableBy (usable : command.usableBy sender) : command.usableBy other := by
  rw [Draft.usableBy, Bool.and_eq_true, Option.all_eq_true] at usable ⊢
  exact ⟨fun permission member => within.holds (usable.1 permission member),
    within.visibleTo asks.own usable.2⟩

end Sender.Within

/-! ### What a sender is shown of a command -/

/-- Whatever the one sender is shown of a command, by itself or in a registry, the other is shown as
well. The usage in the help can grow, as it names the children of a node. -/
structure Command.ShowsMore (command : Command ω) (sender other : Sender) : Prop where
  lines : (command.executableLines sender).Sublist (command.executableLines other)
  labels : ∀ line label behind, Labelled line label behind → behind.atBlank = false →
    ∀ suggestion ∈ (command.suggestions sender line).items,
      suggestion ∈ (command.suggestions other line).items
  entries : ∀ registry : Registry ω, registry.Reachable → command ∈ registry.commands →
    ∀ entry ∈ registry.helpEntries sender, entry.name = command.name →
      { entry with usage := command.usage other } ∈ registry.helpEntries other
  registered : ∀ registry : Registry ω, registry.Reachable → command ∈ registry.commands →
    ∀ line label behind, Labelled line label behind → behind.atBlank = false →
      ∀ suggestion ∈ (registry.suggestions sender line).items, suggestion.text ∈ command.labels →
        suggestion ∈ (registry.suggestions other line).items

namespace Registry

variable {registry : Registry ω} {command : Command ω}

theorem mem_helpEntries_iff {entry : HelpEntry} :
    entry ∈ registry.helpEntries sender ↔
      ∃ command ∈ registry.commands,
        command.usableBy sender ∧ command.helpEntry sender = entry := by
  rw [helpEntries, (HelpEntry.sort_perm _).mem_iff, List.mem_map]
  simp only [usableCommands, List.mem_filter, and_assoc]

/-- Commands of a registry that share a label are the same. -/
theorem Consistent.eq_of_label {other : Command ω} {label : String}
    (consistent : registry.Consistent) (member : command ∈ registry.commands)
    (otherMember : other ∈ registry.commands) (named : label ∈ command.labels)
    (otherNamed : label ∈ other.labels) : command = other :=
  Option.some.inj ((consistent.find?_of_mem member named).symm.trans
    (consistent.find?_of_mem otherMember otherNamed))

end Registry

namespace Command

variable {command : Command ω}

/-- A label that completes a line is one of the command. -/
theorem text_mem_labels {line label : String} {behind : Cursor} {suggestion : Suggestion}
    (labelled : Labelled line label behind) (typing : behind.atBlank = false)
    (suggested : suggestion ∈ (command.suggestions sender line).items) :
    suggestion.text ∈ command.labels := by
  have labels := ((mem_suggestions_of_typing labelled typing).mp suggested).2
  exact (((Suggester.batch_continues _ _).mem_iff suggestion).mp labels).1

theorem showsMore_of_within (within : sender.Within other)
    (asks : command.root.Throughout Node.AsksPermission) : command.ShowsMore sender other := by
  have labels (line label : String) (behind : Cursor) (labelled : Labelled line label behind)
      (typing : behind.atBlank = false) (suggestion : Suggestion)
      (suggested : suggestion ∈ (command.suggestions sender line).items) :
      suggestion ∈ (command.suggestions other line).items := by
    rw [mem_suggestions_of_typing labelled typing] at suggested ⊢
    exact ⟨within.usableBy asks suggested.1, suggested.2⟩
  refine ⟨within.executableLines asks command.name, labels, ?_, ?_⟩
  · intro registry reachable member entry shown named
    obtain ⟨owner, among, usable, rfl⟩ := Registry.mem_helpEntries_iff.mp shown
    have own : owner.name ∈ command.labels := by
      rw [show owner.name = command.name from named]
      exact List.mem_cons_self
    obtain rfl := reachable.consistent.eq_of_label among member List.mem_cons_self own
    exact Registry.mem_helpEntries_iff.mpr ⟨owner, among, within.usableBy asks usable, rfl⟩
  · intro registry reachable member line label behind labelled typing suggestion suggested named
    rw [Registry.mem_suggestions_of_typing labelled typing] at suggested ⊢
    obtain ⟨owner, among, suggested⟩ := suggested
    have own := text_mem_labels labelled typing suggested
    obtain rfl := reachable.consistent.eq_of_label among member own named
    exact ⟨owner, among, labels line label behind labelled typing suggestion suggested⟩

end Command

/-- A sender holds a permission exactly if it is an operator, if the permission is empty or granted,
if all is granted, or if all below some part of the permission is. To grant more, or to make it an
operator, takes no permission away, and nothing that it is shown of a command whose nodes ask for
nothing but permissions. -/
theorem Sender.holds_iff_and_keeps (sender : Sender) :
    (∀ permission, sender.holds permission ↔ sender.operator ∨ permission = "" ∨
      permission ∈ sender.grants ∨ "*" ∈ sender.grants ∨
      ∃ above below, permission = above ++ "." ++ below ∧ above ++ ".*" ∈ sender.grants) ∧
    ∀ other : Sender, sender.Within other →
      (∀ permission, sender.holds permission → other.holds permission) ∧
      ∀ command : Command ω, command.root.Throughout Node.AsksPermission →
        command.ShowsMore sender other :=
  ⟨fun _ => holds_iff, fun _ within => ⟨fun _ => within.holds,
    fun _ asks => Command.showsMore_of_within within asks⟩⟩

/-- All may look at a door, and some may open it. -/
def door : Command String where
  toDraft := .ofName "door" [
    (Node.literal "look").executing Context.label,
    ((Node.literal "open").executing Context.label).requiring fun sender =>
      sender.holds "house.door.open"]
  sound := by decide

/-- A guest who is granted the house learns how to open the door. -/
theorem Sender.holds_iff_and_keeps_door :
    let guest : Sender := ⟨"guest", ["garden"], false⟩
    let tenant : Sender := ⟨"guest", ["garden", "house.*"], false⟩
    guest.Within tenant ∧ door.root.Throughout Node.AsksPermission ∧
    ¬ guest.holds "house.door.open" ∧ tenant.holds "house.door.open" ∧
    guest.holds "garden" ∧ tenant.holds "garden" ∧
    door.ShowsMore guest tenant ∧ door.executableLines guest = ["door look"] ∧
    door.executableLines tenant = ["door look", "door open"] := by
  intro guest tenant
  have within : guest.Within tenant :=
    ⟨fun grant member => List.mem_append_left ["house.*"] member, fun operator => nomatch operator⟩
  have asks : door.root.Throughout Node.AsksPermission := by
    simp [Draft.root, door, Draft.ofName, Node.literal, Node.executing, Node.requiring,
      Node.Throughout.node_iff]
  obtain ⟨holds, keeps⟩ := guest.holds_iff_and_keeps
  obtain ⟨permissions, shows⟩ := keeps tenant within
  have garden : guest.holds "garden" := (holds "garden").mpr (.inr (.inr (.inl List.mem_cons_self)))
  exact ⟨within, asks, by decide, by decide, garden, permissions "garden" garden, shows door asks,
    by decide, by decide⟩

end CommandShell
