/-
This file shows that lines which senders type one after another treat the world as a set of names and
a map of flags. What a line changes is told by its words, and lines that fail change nothing.
-/

import CommandShell.Proofs.Standard
import CommandShell.Shell.Session

namespace CommandShell

open Argument Shell Text

/-- This is the world that the words of an executed line leave behind. -/
def World.afterWords (world : World) (words : List String) : World :=
  (Change.ofWords? words).elim world fun change => change.apply world

/-! ### One line -/

namespace World.Means

variable {sender : Sender} {words : List String} {outcome : Outcome}

/-- Words that spell a change mean that an allowed sender carries it out. -/
theorem of_spelled {change : Change} (means : Means sender words outcome)
    (spelled : Change.ofWords? words = some change) :
    sender.holds change.permission ∧ outcome.CarriesOut change := by
  cases means with
  | change otherSpelled allowed carriesOut =>
      obtain rfl := Option.some.inj (otherSpelled.symm.trans spelled)
      exact ⟨allowed, carriesOut⟩
  | list | flag => cases spelled
  | other notRoster notToggle =>
      rw [Change.ofWords?_of_other notRoster notToggle] at spelled
      cases spelled

/-- What words mean fails without a trace, or does what is said of the set and the map. -/
theorem perform_cases (means : Means sender words outcome) (world : World) :
    (∃ message, outcome.perform ⟨[], world⟩ = (.error message, ⟨[], world⟩)) ∨
      ∃ code replies, outcome.perform ⟨[], world⟩ = (.ok code, ⟨replies, world.afterWords words⟩) ∧
        world.view.Executes words code replies (world.afterWords words).view := by
  cases means with
  | change spelled allowed carriesOut =>
      rename_i change
      have after : world.afterWords words = change.apply world := by
        rw [afterWords, spelled, Option.elim_some]
      rcases carriesOut ⟨[], world⟩ with ⟨permitted, performed⟩ | ⟨_, failed⟩
      · rw [after, change.view_apply]
        exact .inr ⟨_, _, performed, .change spelled permitted⟩
      · exact .inl failed
  | list => exact .inr world.executes_listRoster
  | flag named => exact .inr (executes_showFlag named world)
  | @other label words outcome notRoster notToggle harmless =>
      have after : world.afterWords (label :: words) = world := by
        rw [afterWords, Change.ofWords?_of_other notRoster notToggle, Option.elim_none]
      rcases harmless ⟨[], world⟩ with failed | ⟨code, replies, performed⟩
      · exact .inl failed
      · rw [after]
        exact .inr ⟨code, replies, performed, .other notRoster notToggle⟩

end World.Means

/-- A call belongs to a command of the registry. -/
theorem Registry.exists_command {ω : Type} {registry : Registry ω} {sender : Sender}
    {line : String} {call : Call ω} (resolved : registry.resolve sender line = .ok call) :
    ∃ command ∈ registry.commands, command.resolve sender line = .ok call := by
  simp only [resolve] at resolved
  split at resolved
  · cases resolved
  · rename_i command found
    exact ⟨command, mem_of_find?_eq_some found, resolved⟩

namespace Shell.Session

variable {session : Session} {line : String}

theorem answer_of_resolve {registry : Registry Outcome} {call : Call Outcome}
    (built : session.world.registry = .ok registry)
    (resolved : registry.resolve session.sender line = .ok call) :
    session.answer line =
      ((call.run.perform ⟨[], session.world⟩).1.mapError .command,
        (call.run.perform ⟨[], session.world⟩).2) := by
  have executed : registry.execute session.sender line = .ok call.run := by
    rw [Registry.execute, resolved, Except.map]
  unfold answer Shell.answer
  rw [built]
  simp only [executed]

theorem answer_of_resolve_error {registry : Registry Outcome} {error : DispatchError}
    (built : session.world.registry = .ok registry)
    (resolved : registry.resolve session.sender line = .error error) :
    session.answer line = (.error (.dispatch error), ⟨[], session.world⟩) := by
  have executed := Registry.execute_eq_error_iff.mpr resolved
  unfold answer Shell.answer
  rw [built]
  simp only [executed]

/-- A line fails without a trace, or does what its words say. -/
theorem answer_cases (session : Session) (line : String) :
    (∃ failure, session.answer line = (.error failure, ⟨[], session.world⟩)) ∨
      ∃ code replies,
        session.answer line = (.ok code, ⟨replies, session.world.afterWords (words line.toList)⟩) ∧
          session.world.view.Executes (words line.toList) code replies
            (session.world.afterWords (words line.toList)).view ∧
          ∀ change, Change.ofWords? (words line.toList) = some change →
            session.sender.holds change.permission := by
  obtain ⟨registry, built, _, commands⟩ := session.world.exists_registry
  cases resolved : registry.resolve session.sender line with
  | error error => exact .inl ⟨.dispatch error, answer_of_resolve_error built resolved⟩
  | ok call =>
      obtain ⟨command, member, called⟩ := Registry.exists_command resolved
      have means := World.means_of_resolve (commands ▸ member) called
      rw [answer_of_resolve built resolved]
      rcases means.perform_cases session.world with
        ⟨message, failed⟩ | ⟨code, replies, performed, executes⟩
      · exact .inl ⟨.command message, by rw [failed]; rfl⟩
      · refine .inr ⟨code, replies, by rw [performed]; rfl, executes, fun change spelled => ?_⟩
        exact (means.of_spelled spelled).1

/-- A change that is allowed and possible is executed by the words that spell it. -/
theorem answer_of_change {change : Change} (starts : (Cursor.ofLine line).atBlank = false)
    (spelled : Change.ofWords? (words line.toList) = some change)
    (allowed : session.sender.holds change.permission)
    (permitted : session.world.view.Permits change) :
    ∃ after, session.answer line = (.ok change.code, after) := by
  obtain ⟨label, rest, told⟩ := Change.exists_words_of_spelled spelled
  obtain ⟨behind, labelled, _⟩ := Labelled.of_words starts told
  have nonempty : label ≠ "" := by
    rintro rfl
    exact absurd (isWord_of_mem_words (told ▸ List.mem_cons_self)) (by decide)
  obtain ⟨registry, built, consistent, commands⟩ := session.world.exists_registry
  obtain ⟨command, member, named, call, called⟩ :=
    World.exists_call_of_change labelled nonempty spelled allowed
  have resolved : registry.resolve session.sender line = .ok call := by
    rw [consistent.resolve_of_owner labelled (commands ▸ member) named, called]
  have means := World.means_of_resolve member called
  rw [answer_of_resolve built resolved]
  rcases (means.of_spelled spelled).2 ⟨[], session.world⟩ with ⟨_, performed⟩ | ⟨impossible, _⟩
  · exact ⟨_, by rw [performed]; rfl⟩
  · exact absurd permitted impossible

theorem words_of_trimmed (line : String) :
    words (String.ofList (trim line.toList)).toList = words line.toList := by
  rw [String.toList_ofList, words_trim]

/-- A line that is not empty and does not end the session is answered without the blanks around it. -/
theorem handle_of_answer {result : Except Failure Int} {after : Progress}
    (nonempty : (String.ofList (trim line.toList)).isEmpty = false)
    (goesOn : exitWords.contains (String.ofList (trim line.toList)) = false)
    (answered : session.answer (String.ofList (trim line.toList)) = (result, after)) :
    session.handle line =
      (.ofResult result, after.replies, { session with world := after.world }) := by
  simp only [handle, nonempty, goesOn, answered, Bool.false_eq_true, ↓reduceIte]

/-- A line that is not executed changes nothing and is not replied to. What a line that is executed
does is told by its words. -/
theorem handle_cases (session : Session) (line : String) :
    (∃ outcome, (∀ code, outcome ≠ .executed code) ∧ session.handle line = (outcome, [], session)) ∨
      ∃ code replies,
        session.handle line = (.executed code, replies,
          { session with world := session.world.afterWords (words line.toList) }) ∧
        session.world.view.Executes (words line.toList) code replies
          (session.world.afterWords (words line.toList)).view ∧
        ∀ change, Change.ofWords? (words line.toList) = some change →
          session.sender.holds change.permission := by
  cases nonempty : (String.ofList (trim line.toList)).isEmpty with
  | true => exact .inl ⟨.empty, by simp, by simp [handle, nonempty]⟩
  | false =>
      cases goesOn : exitWords.contains (String.ofList (trim line.toList)) with
      | true => exact .inl ⟨.exit, by simp, by simp only [handle, nonempty, goesOn]; rfl⟩
      | false =>
          have cases := session.answer_cases (String.ofList (trim line.toList))
          rw [words_of_trimmed] at cases
          rcases cases with ⟨failure, failed⟩ | ⟨code, replies, answered, executes, allowed⟩
          · exact .inl ⟨.failed failure, by simp, handle_of_answer nonempty goesOn failed⟩
          · exact .inr ⟨code, replies, handle_of_answer nonempty goesOn answered, executes, allowed⟩

/-- The blanks around a line are no words. What is left is not empty, and ends the session only if
its first word does. -/
theorem trimmed_of_words {text label : String} {rest : List String}
    (trimmed : String.ofList (trim line.toList) = text)
    (told : words line.toList = label :: rest) (stays : label ∉ exitWords) :
    (Cursor.ofLine text).atBlank = false ∧ words text.toList = label :: rest ∧
      text.isEmpty = false ∧ exitWords.contains text = false := by
  have start := head?_trim line.toList
  rw [← String.toList_ofList (l := trim line.toList), trimmed] at start
  rw [← words_of_trimmed, trimmed] at told
  refine ⟨Bool.eq_false_iff.mpr start, told, Bool.eq_false_iff.mpr fun none => ?_,
    Bool.eq_false_iff.mpr fun leaves => stays ?_⟩
  · rw [String.isEmpty_iff.mp none] at told
    cases told
  · have word : text = "exit" ∨ text = "quit" := by
      simpa [exitWords] using leaves
    rcases word with rfl | rfl <;> cases told <;> decide

theorem handle_of_change {change : Change}
    (spelled : Change.ofWords? (words line.toList) = some change)
    (allowed : session.sender.holds change.permission)
    (permitted : session.world.view.Permits change) :
    (session.handle line).1 = .executed change.code := by
  obtain ⟨label, rest, told⟩ := Change.exists_words_of_spelled spelled
  have stays : label ∉ exitWords := by
    intro leaves
    have notRoster : label ≠ "roster" := fun same => absurd (same ▸ leaves) (by decide)
    have notToggle : label ≠ "toggle" := fun same => absurd (same ▸ leaves) (by decide)
    rw [told, Change.ofWords?_of_other notRoster notToggle] at spelled
    cases spelled
  obtain ⟨starts, _, nonempty, goesOn⟩ := trimmed_of_words rfl told stays
  rw [← words_of_trimmed] at spelled
  obtain ⟨after, answered⟩ := answer_of_change starts spelled allowed permitted
  rw [handle_of_answer nonempty goesOn answered]
  rfl

end Shell.Session

/-! ### Lines of many senders -/

/-- In its turn a sender types a line. -/
structure Turn where
  sender : Sender
  colored : Bool
  line : String

namespace Turn

def words (turn : Turn) : List String :=
  Text.words turn.line.toList

def handle (turn : Turn) (world : World) : LineOutcome × List String × Session :=
  (Session.mk turn.sender turn.colored world).handle turn.line

def outcome (turn : Turn) (world : World) : LineOutcome :=
  (turn.handle world).1

def replies (turn : Turn) (world : World) : List String :=
  (turn.handle world).2.1

theorem outcome_of_change (turn : Turn) {world : World} {change : Change}
    (spelled : Change.ofWords? turn.words = some change)
    (allowed : turn.sender.holds change.permission) (permitted : world.view.Permits change) :
    turn.outcome world = .executed change.code :=
  Session.handle_of_change spelled allowed permitted

/-- This is the world that the turn leaves to the next one. -/
def next (turn : Turn) (world : World) : World :=
  (turn.handle world).2.2.world

/-- The words of a line that is executed may spell a change. -/
def change? (turn : Turn) (world : World) : Option Change :=
  match turn.outcome world with
  | .executed _ => Change.ofWords? turn.words
  | _ => none

end Turn

namespace World

def after (world : World) (turns : List Turn) : World :=
  turns.foldl (fun world turn => turn.next world) world

theorem after_cons (world : World) (turn : Turn) (rest : List Turn) :
    world.after (turn :: rest) = (turn.next world).after rest := by
  rw [after, List.foldl_cons, after]

/-- These are the changes that were executed, from the first to the last. -/
def changes (world : World) : List Turn → List Change
  | [] => []
  | turn :: rest => (turn.change? world).toList ++ (turn.next world).changes rest

/-- A turn does what is said of its words if it is executed, and else nothing. -/
theorem turn_cases (world : World) (turn : Turn) :
    ((∀ code, turn.outcome world ≠ .executed code) ∧ turn.replies world = [] ∧
      turn.next world = world) ∨
    ∃ code, turn.outcome world = .executed code ∧
      turn.next world = world.afterWords turn.words ∧
      world.view.Executes turn.words code (turn.replies world) (turn.next world).view ∧
      ∀ change, Change.ofWords? turn.words = some change →
        turn.sender.holds change.permission := by
  unfold Turn.outcome Turn.replies Turn.next Turn.handle
  rcases Session.handle_cases ⟨turn.sender, turn.colored, world⟩ turn.line with
    ⟨outcome, notExecuted, handled⟩ | ⟨code, replies, handled, executes, allowed⟩
  · rw [handled]
    exact .inl ⟨notExecuted, rfl, rfl⟩
  · rw [handled]
    exact .inr ⟨code, rfl, rfl, executes, allowed⟩

theorem view_next (world : World) (turn : Turn) :
    (turn.next world).view = (turn.change? world).toList.foldl View.apply world.view := by
  rcases world.turn_cases turn with ⟨notExecuted, _, same⟩ | ⟨code, executed, left, _, _⟩
  · have none : turn.change? world = none := by
      unfold Turn.change?
      split
      · rename_i code executed
        exact absurd executed (notExecuted code)
      · rfl
    rw [same, none]
    rfl
  · have some : turn.change? world = Change.ofWords? turn.words := by
      rw [Turn.change?, executed]
    rw [left, some, afterWords]
    cases Change.ofWords? turn.words with
    | none => rfl
    | some change => exact change.view_apply world

theorem view_after (world : World) (turns : List Turn) :
    (world.after turns).view = (world.changes turns).foldl View.apply world.view := by
  induction turns generalizing world with
  | nil => rfl
  | cons turn rest inductionHypothesis =>
      rw [changes, List.foldl_append, ← view_next, ← inductionHypothesis, after_cons]

theorem view_ofPlayers (names : List String) :
    (ofPlayers names).view = ⟨{name | name ∈ names}, fun _ => none⟩ := by
  refine congrArg (View.mk · _) (Set.ext fun name => ?_)
  exact Roster.contains_ofList names name

/-- Whatever senders type one after another, the world stays the set and the map that the executed
changes make. A line that is not executed leaves the world as it was and is not replied to, and what a
line that is executed does is told by its words. Words that spell a change are executed exactly where
the sender is allowed to change the world and the change is possible. -/
theorem after_refines (names : List String) (turns : List Turn) :
    let start := ofPlayers names
    let world := start.after turns
    let changes := start.changes turns
    start.view = ⟨{name | name ∈ names}, fun _ => none⟩ ∧
    world.view = changes.foldl View.apply start.view ∧
    (∀ flag, world.view.values flag = changes.reverse.findSome? (Change.valueOf? flag)) ∧
    ∀ turn : Turn,
      ((∀ code, turn.outcome world ≠ .executed code) →
        turn.replies world = [] ∧ turn.next world = world) ∧
      (∀ code, turn.outcome world = .executed code →
        turn.next world = world.afterWords turn.words ∧
        world.view.Executes turn.words code (turn.replies world) (turn.next world).view) ∧
      ∀ change, Change.ofWords? turn.words = some change →
        ((∃ code, turn.outcome world = .executed code) ↔
          turn.sender.holds change.permission ∧ world.view.Permits change) := by
  intro start world changes
  have viewed : world.view = changes.foldl View.apply start.view := view_after start turns
  refine ⟨view_ofPlayers names, viewed, fun flag => ?_, fun turn => ?_⟩
  · rw [viewed, View.values_foldl, view_ofPlayers, Option.or_none]
  rcases world.turn_cases turn with
    ⟨notExecuted, silent, same⟩ | ⟨code, executed, left, executes, allowed⟩
  · refine ⟨fun _ => ⟨silent, same⟩, fun code executed => absurd executed (notExecuted code), ?_⟩
    intro change spelled
    refine ⟨fun ⟨code, executed⟩ => absurd executed (notExecuted code), ?_⟩
    rintro ⟨allowed, permitted⟩
    exact ⟨_, turn.outcome_of_change spelled allowed permitted⟩
  · refine ⟨fun notExecuted => absurd executed (notExecuted code), ?_, ?_⟩
    · intro other otherExecuted
      obtain rfl : code = other := LineOutcome.executed.inj (executed.symm.trans otherExecuted)
      exact ⟨left, executes⟩
    · intro change spelled
      refine ⟨fun _ => ⟨allowed change spelled, executes.permits spelled⟩, fun _ => ⟨code, executed⟩⟩

end World

end CommandShell
