/-
This file says which names can be used where players are suggested. A command with coordinates takes
a name that is one itself for the first of them, and so this name is no target there. In all other
slots each name that is suggested works.
-/

import CommandShell.Proofs.Decimal
import CommandShell.Proofs.Turn

namespace CommandShell

open Argument Binary Shell Text

namespace World

/-! ### Words of coordinates -/

/-- A coordinate is a decimal that is nearest to a finite number. -/
def IsCoordinate (word : String) (number : Number) : Prop :=
  binary64.ReadsAs word.toList number ∧ number.isFinite

theorem isCoordinate_iff {word : String} {number : Number} :
    IsCoordinate word number ↔ readDecimal .double binary64 word.toList = .ok number := by
  constructor
  · rintro ⟨reads, isFinite⟩
    rw [readDecimal_of_readsAs moderate_binary64 reads, if_pos isFinite]
  · intro read
    cases found : Decimal.read? word.toList with
    | none =>
        rw [readDecimal, found] at read
        cases read
    | some decimal =>
        have reads := (readsAs_iff moderate_binary64).mpr ⟨decimal, found, rfl⟩
        rw [readDecimal_of_readsAs moderate_binary64 reads] at read
        split at read
        · rename_i isFinite
          cases read
          exact ⟨reads, isFinite⟩
        · cases read

/-- A coordinate is taken with its number, and another word is not taken. -/
theorem take?_of_isCoordinate {word : String} {number : Number}
    (coordinate : IsCoordinate word number) (axis : String) :
    (Segment.argument axis (.double none none) none).take? word =
      some (some (axis, .double number)) := by
  rw [Segment.take?, Kind.ofWord, isCoordinate_iff.mp coordinate]
  rfl

theorem take?_of_not_isCoordinate {word : String} (other : ¬ ∃ number, IsCoordinate word number)
    (axis : String) : (Segment.argument axis (.double none none) none).take? word = none := by
  rw [Segment.take?, Kind.ofWord]
  cases read : readDecimal .double binary64 word.toList with
  | error fault => rfl
  | ok number => exact absurd ⟨number, isCoordinate_iff.mpr read⟩ other

/-! ### What the words lead to -/

section Words

variable {world : World} {sender : Sender}

theorem root_give (world : World) :
    (give world).root = .node (.literal "give") none none [
      .node (.argument "target" .word (some world.players)) none none [
        .node (.argument "item" .word (some (.fixed (itemNames.map (·, none)))))
          (some (giveItems · 1)) none [
            .node (.argument "count" (.integer (some 1) (some 64)) none)
              (some giveCount) none []]]] := rfl

theorem root_gamemode (world : World) :
    (gamemode world).root = .node (.literal "gamemode") none none
      (gameModes.map fun mode => .node (.literal mode.1) (some fun _ => setOwnMode mode) none [
        .node (.argument "target" .word (some world.players)) (some (setMode mode)) none []]) := rfl

theorem coordinates_eq (executor : Executor Outcome) :
    coordinates executor = .node (.argument "x" (.double none none) none) none none [
      .node (.argument "y" (.double none none) none) none none [
        .node (.argument "z" (.double none none) none) (some executor) none []]] := rfl

theorem root_teleport (world : World) :
    (teleport world).root = .node (.literal "teleport") none none [
      coordinates fun context => teleportTo context context.sender.name,
      .node (.argument "target" .word (some world.players)) none none [
        coordinates teleportTarget]] := rfl

theorem callOf?_give (name item : String) :
    (give world).root.callOf? sender [name, item] =
      some (some (giveItems · 1), [("target", .text name), ("item", .text item)]) := by
  rw [root_give]
  simp [Node.callOf?, Node.children, Node.executor, Node.firstTaking?_cons, Segment.take?_word]

theorem callOf?_giveCount {count : String} {number : Int}
    (numeral : WholeNumeral count.toList number) (within : 1 ≤ number ∧ number ≤ 64)
    (name item : String) :
    (give world).root.callOf? sender [name, item, count] =
      some (some giveCount,
        [("target", .text name), ("item", .text item), ("count", .integer number)]) := by
  have counted : (Segment.argument "count" (.integer (some 1) (some 64)) none).take? count =
      some (some ("count", .integer number)) := by
    have fits : -(Nat.pow 2 (32 - 1) : Int) ≤ number ∧ number < Nat.pow 2 (32 - 1) := by
      norm_num
      omega
    have read : readWhole .integer 32 count.toList = .ok number := by
      rw [readWhole_of_numeral numeral, if_pos fits]
    have bounds : Within (· < ·) (some 1) (some 64) number :=
      ⟨by simpa using within.1, by simpa using within.2⟩
    rw [Segment.take?, Kind.ofWord, bind_checkBounds_of_within read bounds]
  rw [root_give]
  simp [Node.callOf?, Node.children, Node.executor, Node.firstTaking?_cons, Segment.take?_word,
    counted]

theorem callOf?_gamemode {mode : String × Int} (known : mode ∈ gameModes) (name : String) :
    (gamemode world).root.callOf? sender [mode.1, name] =
      some (some (setMode mode), [("target", .text name)]) := by
  rw [root_gamemode]
  simp only [gameModes, List.mem_cons, List.not_mem_nil, or_false] at known
  rcases known with rfl | rfl | rfl | rfl <;>
    simp [Node.callOf?, Node.children, Node.executor, Node.firstTaking?_cons, Segment.take?,
      gameModes, Kind.ofWord]

/-- Three coordinates lead to the executor behind them. -/
theorem callOf?_coordinates {segment : Segment} {requirement : Option (Sender → Bool)}
    {executor : Executor Outcome} {x y z : String} {first second third : Number}
    (isFirst : IsCoordinate x first) (isSecond : IsCoordinate y second)
    (isThird : IsCoordinate z third) :
    (Node.node segment none requirement [coordinates executor]).callOf? sender [x, y, z] =
      some (some executor,
        [("x", .double first), ("y", .double second), ("z", .double third)]) := by
  simp [coordinates_eq, Node.callOf?_onlyChild, Node.callOf?_nil, take?_of_isCoordinate isFirst,
    take?_of_isCoordinate isSecond, take?_of_isCoordinate isThird, Node.executor]

/-- A name that is no coordinate is left to the target. -/
theorem callOf?_teleport {name x y z : String} {first second third : Number}
    (other : ¬ ∃ number, IsCoordinate name number) (isFirst : IsCoordinate x first)
    (isSecond : IsCoordinate y second) (isThird : IsCoordinate z third) :
    (teleport world).root.callOf? sender [name, x, y, z] =
      some (some teleportTarget, [("target", .text name), ("x", .double first),
        ("y", .double second), ("z", .double third)]) := by
  rw [root_teleport, Node.callOf?, Node.children, coordinates_eq, Node.firstTaking?_cons,
    take?_of_not_isCoordinate other, Node.firstTaking?_cons, Segment.take?_word]
  simp [callOf?_coordinates isFirst isSecond isThird, Node.executor]

/-- A name that is a coordinate is taken for the first one, so that the last word is left over. -/
theorem callOf?_teleport_of_isCoordinate {name : String} {number : Number}
    (coordinate : IsCoordinate name number) (x y z : String) :
    (teleport world).root.callOf? sender [name, x, y, z] = none := by
  -- The coordinates stand in front of the target, and what has taken a word keeps it.
  rw [root_teleport, Node.callOf?, Node.children, coordinates_eq, Node.firstTaking?_cons,
    take?_of_isCoordinate coordinate]
  simp [Node.callOf?_onlyChild, Node.callOf?_leaf]

theorem readsWords_give (world : World) :
    (give world).root.Throughout fun node =>
      ∀ child ∈ node.children, child.segment.ReadsWords := by
  rw [root_give]
  simp [Node.Throughout.node_iff, Node.children, Node.segment, Segment.ReadsWords]

theorem readsWords_gamemode (world : World) :
    (gamemode world).root.Throughout fun node =>
      ∀ child ∈ node.children, child.segment.ReadsWords := by
  rw [root_gamemode]
  simp [gameModes, Node.Throughout.node_iff, Node.children, Node.segment, Segment.ReadsWords]

theorem readsWords_teleport (world : World) :
    (teleport world).root.Throughout fun node =>
      ∀ child ∈ node.children, child.segment.ReadsWords := by
  rw [root_teleport]
  simp [coordinates_eq, Node.Throughout.node_iff, Node.children, Node.segment, Segment.ReadsWords]

end Words

/-! ### What the executors do -/

/-- This is how a gift is reported. -/
def gift (count : Int) (item name : String) : String :=
  "Gave " ++ toString count ++ " [" ++ item ++ "] to " ++ name

section Acts

open Act

variable {world : World} {context : Context} {name : String} {before : Progress}

theorem perform_requireOnline (online : before.world.roster.contains name) :
    (requireOnline name).perform before = (.ok (), before) := by
  rw [requireOnline, perform_bind_of_ok (perform_readRoster before), if_pos online, perform_pure]

theorem perform_giveItems {item : String} (count : Int)
    (target : context.get .text "target" = .ok name) (given : context.get .text "item" = .ok item)
    (online : before.world.roster.contains name) :
    (giveItems context count).perform before =
      (.ok count, { before with replies := before.replies ++ [gift count item name] }) := by
  rw [giveItems, perform_bind_of_ok (perform_require_of_ok target before),
    perform_bind_of_ok (perform_require_of_ok given before),
    perform_bind_of_ok (perform_requireOnline online), perform_bind_of_ok (perform_reply _ _),
    perform_pure, gift]

theorem perform_giveCount {item : String} {count : Int}
    (target : context.get .text "target" = .ok name) (given : context.get .text "item" = .ok item)
    (counted : context.get .integer "count" = .ok count)
    (online : before.world.roster.contains name) :
    (giveCount context).perform before =
      (.ok count, { before with replies := before.replies ++ [gift count item name] }) := by
  rw [giveCount, perform_bind_of_ok (perform_require_of_ok counted before),
    perform_giveItems count target given online]

theorem perform_setMode (mode : String × Int) (target : context.get .text "target" = .ok name)
    (online : before.world.roster.contains name) :
    (setMode mode context).perform before =
      (.ok mode.2, { before with replies := before.replies ++
        ["Set " ++ name ++ "'s game mode to " ++ mode.1] }) := by
  rw [setMode, perform_bind_of_ok (perform_require_of_ok target before),
    perform_bind_of_ok (perform_requireOnline online), perform_bind_of_ok (perform_reply _ _),
    perform_pure]

theorem perform_teleportTarget {x y z : Number} (target : context.get .text "target" = .ok name)
    (first : context.get .double "x" = .ok x) (second : context.get .double "y" = .ok y)
    (third : context.get .double "z" = .ok z) (online : before.world.roster.contains name) :
    (teleportTarget context).perform before =
      (.ok 1, { before with replies := before.replies ++
        ["Teleported " ++ name ++ " to " ++
          ", ".intercalate ([x, y, z].map (Number.writeFixed 2))] }) := by
  rw [teleportTarget, perform_bind_of_ok (perform_require_of_ok target before),
    perform_bind_of_ok (perform_requireOnline online), teleportTo,
    perform_bind_of_ok (perform_require_of_ok first before),
    perform_bind_of_ok (perform_require_of_ok second before),
    perform_bind_of_ok (perform_require_of_ok third before),
    perform_bind_of_ok (perform_reply _ _), perform_pure]

theorem perform_leaveRoster (named : context.get .text "name" = .ok name)
    (online : before.world.roster.contains name) :
    (leaveRoster context).perform before =
      (.ok 1, ⟨before.replies ++ [name ++ " left"], (Change.leave name).apply before.world⟩) := by
  rcases carriesOut_leaveRoster named before with ⟨_, performed⟩ | ⟨impossible, _⟩
  · exact performed
  · exact absurd online impossible

end Acts

/-! ### Names that are online -/

/-- These names are suggested where a player is meant. -/
def Offers (world : World) (name : String) : Prop :=
  ∃ context place, ∃ suggestion ∈ (world.players context (Suggester.behind place)).items,
    suggestion.text = name

theorem offers_iff_online {world : World} {name : String} :
    world.Offers name ↔ world.roster.contains name := by
  constructor
  · rintro ⟨context, place, suggestion, suggested, rfl⟩
    have continues := Suggester.batch_continues place world.roster.names
    exact decide_eq_true ((continues.mem_iff suggestion).mp suggested).1
  · intro online
    -- Where nothing has been typed, each name goes on with the line.
    have continues := Suggester.batch_continues ⟨[], []⟩ world.roster.names
    have offered := (continues.mem_iff ⟨Cursor.rest ⟨[], []⟩, name, none⟩).mpr
      ⟨of_decide_eq_true online, .inl rfl, rfl, rfl⟩
    exact ⟨⟨⟨"", [], false⟩, "", "", [], ⟨"", [], none, ""⟩⟩, ⟨[], []⟩, _, offered, rfl⟩

/-- All names that are online are words. -/
def NamesWords (world : World) : Prop :=
  ∀ name, world.roster.contains name → isWord name.toList

theorem namesWords_standard : standard.NamesWords := by
  intro name online
  have areWords : ∀ known ∈ ["alex", "notch", "steve"], isWord known.toList := by decide
  exact areWords name ((Roster.contains_ofList _ _).mp online)

/-- Who joins in a line has one of its words as the name. -/
theorem NamesWords.next {world : World} (named : world.NamesWords) (turn : Turn) :
    (turn.next world).NamesWords := by
  rcases world.turn_cases turn with ⟨_, _, same⟩ | ⟨code, _, left, _, _⟩
  · rwa [same]
  · rw [left, afterWords]
    cases spelled : Change.ofWords? turn.words with
    | none => exact named
    | some change =>
        intro name online
        cases change with
        -- Only the name that joins is new.
        | join other =>
            have told : turn.words = ["roster", "add", other] := Change.words_of_spelled spelled
            rw [Option.elim_some, Change.apply, Roster.contains_insert, Bool.or_eq_true,
              beq_iff_eq] at online
            rcases online with rfl | before
            · exact isWord_of_mem_words (told ▸ by simp : name ∈ turn.words)
            · exact named name before
        | leave other =>
            rw [Option.elim_some, Change.apply, Roster.contains_erase, Bool.and_eq_true] at online
            exact named name online.2
        | switch flag value => exact named name online

theorem NamesWords.after {world : World} (named : world.NamesWords) (turns : List Turn) :
    (world.after turns).NamesWords := by
  induction turns generalizing world with
  | nil => exact named
  | cons turn rest inductionHypothesis =>
      rw [after_cons]
      exact inductionHypothesis (named.next turn)

/-! ### Slots -/

/-- A slot of a line names a player to an executor, which answers with a number and a reply. -/
structure Slot where
  permission : String
  argument : String
  executor : Executor Outcome
  code : Int
  reply : String

/-- These are the words that put a name into a slot, with valid words for the other arguments. -/
inductive Fills (name : String) : List String → Slot → Prop where
  | give {item : String} (isItem : isWord item.toList) :
      Fills name ["give", name, item]
        ⟨"cmdtree.give", "target", (giveItems · 1), 1, gift 1 item name⟩
  | giveCount {item count : String} {number : Int} (isItem : isWord item.toList)
      (counted : WholeNumeral count.toList number) (within : 1 ≤ number ∧ number ≤ 64) :
      Fills name ["give", name, item, count]
        ⟨"cmdtree.give", "target", giveCount, number, gift number item name⟩
  | gamemode {label : String} {mode : String × Int} (labelled : label ∈ ["gamemode", "gm"])
      (known : mode ∈ gameModes) :
      Fills name [label, mode.1, name]
        ⟨"cmdtree.gamemode", "target", setMode mode, mode.2,
          "Set " ++ name ++ "'s game mode to " ++ mode.1⟩
  | teleport {label x y z : String} {first second third : Number}
      (labelled : label ∈ ["teleport", "tp"])
      (other : ¬ ∃ number, IsCoordinate name number) (isFirst : IsCoordinate x first)
      (isSecond : IsCoordinate y second) (isThird : IsCoordinate z third) :
      Fills name [label, name, x, y, z]
        ⟨"cmdtree.teleport", "target", teleportTarget, 1, "Teleported " ++ name ++ " to " ++
          ", ".intercalate ([first, second, third].map (Number.writeFixed 2))⟩
  | remove : Fills name ["roster", "remove", name]
      ⟨"cmdtree.roster", "name", leaveRoster, 1, name ++ " left"⟩

/-- No label of a standard command ends the session. -/
theorem notMem_exitWords {world : World} {command : Command Outcome} {label : String}
    (member : command ∈ world.commands) (named : label ∈ command.labels) :
    label ∉ exitWords := by
  have stay : ∀ label ∈ world.commands.flatMap fun command => command.labels,
      label ∉ exitWords := by
    rw [labels_commands]
    decide
  exact stay label (List.mem_flatMap.mpr ⟨command, member, named⟩)

/-- The command is a standard one that reads words, and nobody needs more than a permission. -/
structure Provides (world : World) (permission : String) (command : Command Outcome) : Prop where
  member : command ∈ world.commands
  needed : command.heading.permission = some permission
  unrequired : command.requirement = none
  readsWords : command.root.Throughout fun node =>
    ∀ child ∈ node.children, child.segment.ReadsWords

end World

/-- This is the line of a turn without the blanks around it. -/
def Turn.trimmed (turn : Turn) : String :=
  String.ofList (trim turn.line.toList)

/-- A turn is answered without the blanks around its line. -/
theorem Turn.handle_of_answer {turn : Turn} {world : World} {result : Except Failure Int}
    {after : Progress} (nonempty : turn.trimmed.isEmpty = false)
    (goesOn : exitWords.contains turn.trimmed = false)
    (answered : (Session.mk turn.sender turn.colored world).answer turn.trimmed = (result, after)) :
    turn.outcome world = .ofResult result ∧ turn.replies world = after.replies := by
  unfold Turn.trimmed at nonempty goesOn answered
  have handled := Session.handle_of_answer nonempty goesOn answered
  unfold Turn.outcome Turn.replies Turn.handle
  rw [handled]
  exact ⟨rfl, rfl⟩

/-- A turn reaches the executor of a slot with a name as its argument, and succeeds. -/
structure Turn.Serves (turn : Turn) (world : World) (slot : World.Slot) (name : String) :
    Prop where
  calls : ∃ registry call, world.registry = .ok registry ∧
    registry.resolve turn.sender turn.trimmed = .ok call ∧ call.executor = slot.executor ∧
      call.context.get .text slot.argument = .ok name
  outcome : turn.outcome world = .executed slot.code
  replies : turn.replies world = [slot.reply]

namespace World.Provides

variable {world : World} {command : Command Outcome} {turn : Turn} {label name permission : String}
  {rest : List String}

/-- The words of a turn are taken on by their command. -/
theorem exists_admits (provides : world.Provides permission command)
    (named : label ∈ command.labels) (told : turn.words = label :: rest)
    (allowed : turn.sender.holds permission) :
    ∃ registry behind, world.registry = .ok registry ∧
      registry.resolve turn.sender turn.trimmed = command.resolve turn.sender turn.trimmed ∧
      command.Admits turn.sender turn.trimmed label behind ∧ words behind.remaining = rest ∧
      turn.trimmed.isEmpty = false ∧ exitWords.contains turn.trimmed = false := by
  have trimmed : String.ofList (trim turn.line.toList) = turn.trimmed := rfl
  obtain ⟨starts, toldTrimmed, nonempty, goesOn⟩ :=
    Session.trimmed_of_words trimmed told (notMem_exitWords provides.member named)
  obtain ⟨behind, labelled, given⟩ := Labelled.of_words starts toldTrimmed
  obtain ⟨registry, built, consistent, commands⟩ := world.exists_registry
  have usable := not_rejects_of_holds provides.needed provides.unrequired allowed
  have owner := consistent.resolve_of_owner labelled (commands ▸ provides.member) named turn.sender
  exact ⟨registry, behind, built, owner, ⟨labelled, named, usable⟩, given, nonempty, goesOn⟩

theorem serves {slot : Slot} {arguments : Arguments}
    (provides : world.Provides slot.permission command) (named : label ∈ command.labels)
    (told : turn.words = label :: rest) (allowed : turn.sender.holds slot.permission)
    (leads : command.root.callOf? turn.sender rest = some (some slot.executor, arguments))
    (target : ∀ line, Context.get ⟨turn.sender, line, label, arguments, command.heading⟩ .text
      slot.argument = .ok name)
    (performs : ∀ line, ∃ after,
      (slot.executor ⟨turn.sender, line, label, arguments, command.heading⟩).perform ⟨[], world⟩ =
        (.ok slot.code, ⟨[slot.reply], after⟩)) :
    turn.Serves world slot name := by
  obtain ⟨registry, behind, built, owner, admits, given, nonempty, goesOn⟩ :=
    provides.exists_admits named told allowed
  -- The words decide alone which executor is called.
  have resolved := (Command.resolve_eq_ok_iff_words admits.labelled provides.readsWords).mpr
    ⟨admits, slot.executor, arguments, given ▸ leads, rfl⟩
  rw [← owner] at resolved
  obtain ⟨after, performed⟩ := performs turn.trimmed
  let session : Session := ⟨turn.sender, turn.colored, world⟩
  have answered := @Session.answer_of_resolve session turn.trimmed registry _ built resolved
  rw [Call.run, performed] at answered
  obtain ⟨outcome, replies⟩ := Turn.handle_of_answer nonempty goesOn answered
  exact ⟨⟨registry, _, built, resolved, rfl, target _⟩, outcome, replies⟩

end World.Provides

namespace World

theorem IsCoordinate.isWord {word : String} {number : Number}
    (coordinate : IsCoordinate word number) : isWord word.toList := by
  obtain ⟨⟨negative, exact, numeral, _⟩, _⟩ := coordinate
  exact numeral.isWord

section

variable {world : World} {name : String} {words : List String} {slot : Slot}

/-- The words can be typed with a blank between them. -/
theorem Fills.areWords (fills : Fills name words slot) (named : isWord name.toList) :
    ∀ word ∈ words, isWord word.toList := by
  have nothing : ∀ word ∈ ([] : List String), isWord word.toList := fun _ member => nomatch member
  cases fills with
  | give isItem =>
      simp only [List.forall_mem_cons]
      exact ⟨by decide, named, isItem, nothing⟩
  | giveCount isItem counted =>
      simp only [List.forall_mem_cons]
      exact ⟨by decide, named, isItem, counted.isWord, nothing⟩
  | gamemode labelled known =>
      have labels : ∀ label ∈ ["gamemode", "gm"], isWord label.toList := by decide
      have modes : ∀ mode ∈ gameModes, isWord mode.1.toList := by decide
      simp only [List.forall_mem_cons]
      exact ⟨labels _ labelled, modes _ known, named, nothing⟩
  | teleport labelled other isFirst isSecond isThird =>
      have labels : ∀ label ∈ ["teleport", "tp"], isWord label.toList := by decide
      simp only [List.forall_mem_cons]
      exact ⟨labels _ labelled, named, isFirst.isWord, isSecond.isWord, isThird.isWord, nothing⟩
  | remove =>
      simp only [List.forall_mem_cons]
      exact ⟨by decide, by decide, named, nothing⟩

theorem provides_give (world : World) :
    world.Provides "cmdtree.give" ⟨give world, by cbv⟩ where
  member := by simp [commands]
  needed := rfl
  unrequired := rfl
  readsWords := readsWords_give world

theorem provides_gamemode (world : World) :
    world.Provides "cmdtree.gamemode" ⟨gamemode world, by cbv⟩ where
  member := by simp [commands]
  needed := rfl
  unrequired := rfl
  readsWords := readsWords_gamemode world

theorem provides_teleport (world : World) :
    world.Provides "cmdtree.teleport" ⟨teleport world, by cbv⟩ where
  member := by simp [commands]
  needed := rfl
  unrequired := rfl
  readsWords := readsWords_teleport world

theorem provides_rosterCommand (world : World) :
    world.Provides "cmdtree.roster" ⟨rosterCommand world, sound_rosterCommand world⟩ where
  member := by simp [commands]
  needed := rfl
  unrequired := rfl
  readsWords := readsWords_rosterCommand world

/-- Words that put the name of somebody online into a slot are answered there. -/
theorem Fills.serves {turn : Turn} (fills : Fills name words slot)
    (online : world.roster.contains name) (told : turn.words = words)
    (allowed : turn.sender.holds slot.permission) : turn.Serves world slot name := by
  cases fills with
  | @give item =>
      exact (provides_give world).serves (List.mem_singleton_self _) told allowed
        (callOf?_give name item) (fun _ => rfl)
        fun _ => ⟨_, perform_giveItems 1 rfl rfl online⟩
  | @giveCount item count number isItem counted within =>
      exact (provides_give world).serves (List.mem_singleton_self _) told allowed
        (callOf?_giveCount counted within name item) (fun _ => rfl)
        fun _ => ⟨_, perform_giveCount rfl rfl rfl online⟩
  | @gamemode label mode labelled known =>
      exact (provides_gamemode world).serves labelled told allowed
        (callOf?_gamemode known name) (fun _ => rfl)
        fun _ => ⟨_, perform_setMode _ rfl online⟩
  | @teleport label _ _ _ _ _ _ labelled other isFirst isSecond isThird =>
      exact (provides_teleport world).serves labelled told allowed
        (callOf?_teleport other isFirst isSecond isThird) (fun _ => rfl)
        fun _ => ⟨_, perform_teleportTarget rfl rfl rfl rfl online⟩
  | remove =>
      exact (provides_rosterCommand world).serves (List.mem_singleton_self _) told allowed
        (callOf?_rosterCommand ["remove", name]) (fun _ => rfl)
        fun _ => ⟨_, perform_leaveRoster rfl online⟩

/-- A name that is a coordinate is none of a target. -/
theorem exists_unknownArgument_of_isCoordinate {turn : Turn} {label x y z : String}
    {number : Number} (coordinate : IsCoordinate name number)
    (labelled : label ∈ ["teleport", "tp"]) (told : turn.words = [label, name, x, y, z])
    (allowed : turn.sender.holds "cmdtree.teleport") :
    ∃ position cause, turn.outcome world =
      .failed (.dispatch (.unknownArgument position turn.trimmed cause)) := by
  obtain ⟨registry, behind, built, owner, admits, given, nonempty, goesOn⟩ :=
    (provides_teleport world).exists_admits labelled told allowed
  have nowhere : (teleport world).root.callOf? turn.sender [name, x, y, z] = none :=
    callOf?_teleport_of_isCoordinate coordinate x y z
  obtain ⟨position, cause, unknown⟩ := Command.exists_resolve_eq_unknownArgument admits
    (readsWords_teleport world) (given ▸ nowhere)
  rw [← owner] at unknown
  let session : Session := ⟨turn.sender, turn.colored, world⟩
  have answered := @Session.answer_of_resolve_error session turn.trimmed registry _ built unknown
  exact ⟨position, cause, (Turn.handle_of_answer nonempty goesOn answered).1⟩

end

/-- Whatever senders type one after another, a name that is then suggested can be put into each slot
for a player, and the executor of the slot is called with it and succeeds. Only a name that is a
coordinate is no target to teleport, as it is taken for the first coordinate. -/
theorem offered_names_serve (turns : List Turn) (name : String)
    (offered : (standard.after turns).Offers name) :
    let world := standard.after turns
    (∀ words slot, Fills name words slot → Text.words (" ".intercalate words).toList = words ∧
      ∀ turn : Turn, turn.words = words → turn.sender.holds slot.permission →
        turn.Serves world slot name) ∧
    ∀ number, IsCoordinate name number → ∀ label ∈ ["teleport", "tp"], ∀ x y z, ∀ turn : Turn,
      turn.words = [label, name, x, y, z] → turn.sender.holds "cmdtree.teleport" →
        ∃ position cause, turn.outcome world =
          .failed (.dispatch (.unknownArgument position turn.trimmed cause)) := by
  intro world
  have online : world.roster.contains name := offers_iff_online.mp offered
  have named : isWord name.toList := namesWords_standard.after turns name online
  constructor
  · intro words slot fills
    exact ⟨words_intercalate (fills.areWords named),
      fun turn told allowed => fills.serves online told allowed⟩
  · intro number coordinate label labelled x y z turn told allowed
    exact exists_unknownArgument_of_isCoordinate coordinate labelled told allowed

/-- After the name `list` has joined, it is a target like others. -/
theorem offered_names_serve_list :
    let console : Sender := ⟨"console", ["cmdtree.*"], false⟩
    let world := standard.after [⟨console, false, "roster add list"⟩]
    let turn : Turn := ⟨console, false, " tp list 1  -2.5 .5e1"⟩
    world.Offers "list" ∧ turn.Serves world
      ⟨"cmdtree.teleport", "target", teleportTarget, 1, "Teleported list to 1.00, -2.50, 5.00"⟩
      "list" := by
  intro console world turn
  have offered : world.Offers "list" := offers_iff_online.mpr (by decide +kernel)
  have other : ¬ ∃ number, IsCoordinate "list" number := by
    rintro ⟨number, coordinate⟩
    have missing : readDecimal .double binary64 "list".toList =
        .error (.notANumber .double "list") := by
      decide +kernel
    rw [isCoordinate_iff, missing] at coordinate
    cases coordinate
  have isFirst : IsCoordinate "1" (.finite false 4503599627370496 (-52)) :=
    isCoordinate_iff.mpr (by decide +kernel)
  have isSecond : IsCoordinate "-2.5" (.finite true 5629499534213120 (-51)) :=
    isCoordinate_iff.mpr (by decide +kernel)
  have isThird : IsCoordinate ".5e1" (.finite false 5629499534213120 (-50)) :=
    isCoordinate_iff.mpr (by decide +kernel)
  have fills := Fills.teleport (List.mem_cons_of_mem "teleport" (List.mem_singleton_self "tp"))
    other isFirst isSecond isThird
  have served := (offered_names_serve _ "list" offered).1 _ _ fills
  exact ⟨offered, served.2 turn (by decide +kernel) (by decide +kernel)⟩

/-- The name `5` is suggested as a target, but nobody can be teleported by it. -/
theorem offered_coordinate_not_served :
    let console : Sender := ⟨"console", ["cmdtree.*"], false⟩
    let join : Turn := ⟨console, false, "roster add 5"⟩
    let move : Turn := ⟨console, false, "teleport 5 1 2 3"⟩
    let world := standard.after [join]
    join.outcome standard = .executed 1 ∧ world.Offers "5" ∧ console.holds "cmdtree.teleport" ∧
      (∀ word ∈ ["1", "2", "3"], ∃ number, IsCoordinate word number) ∧
        ∀ code, move.outcome world ≠ .executed code := by
  intro console join move world
  have refused : move.outcome world =
      .failed (.dispatch (.unknownArgument 15 "teleport 5 1 2 3" none)) := by decide +kernel
  have areNumbers : ∀ word ∈ ["1", "2", "3"], ∃ number, IsCoordinate word number := by
    simp only [List.forall_mem_cons]
    exact ⟨⟨.finite false 4503599627370496 (-52), isCoordinate_iff.mpr (by decide +kernel)⟩,
      ⟨.finite false 4503599627370496 (-51), isCoordinate_iff.mpr (by decide +kernel)⟩,
      ⟨.finite false 6755399441055744 (-51), isCoordinate_iff.mpr (by decide +kernel)⟩,
      fun _ member => nomatch member⟩
  refine ⟨by decide +kernel, offers_iff_online.mpr (by decide +kernel), by decide, areNumbers, ?_⟩
  intro code executed
  rw [refused] at executed
  cases executed

end World

end CommandShell
