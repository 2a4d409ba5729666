/-
This file says how a command answers a line: the label names it, the sender may use it, and the last
node with an executor on the route of the line is called. Resolving the line gives this answer.
-/

import CommandShell.Proofs.Walk

namespace CommandShell

open Argument Text

/-! ### Labels -/

/-- The label of a line is its longest start without blanks. -/
structure Labelled (line label : String) (behind : Cursor) : Prop where
  read : behind.consumed = label.toList
  line_eq : behind.line = line.toList
  solid : ∀ char ∈ label.toList, isSolid char
  longest : ∀ text rest, line.toList = text ++ rest → (∀ char ∈ text, isSolid char) →
    text.length ≤ label.toList.length

namespace Labelled

variable {line label : String} {behind : Cursor}

theorem atBoundary (labelled : Labelled line label behind) : behind.atBoundary := by
  obtain ⟨consumed, remaining⟩ := behind
  obtain ⟨rfl, line_eq, solid, longest⟩ := labelled
  cases remaining with
  | nil => rfl
  | cons char rest =>
      cases blank : isBlank char with
      | true => exact blank
      | false =>
          have split : line.toList = label.toList ++ [char] ++ rest := by
            simpa [Cursor.line] using line_eq.symm
          have longer := longest (label.toList ++ [char]) rest split
          have bound := longer (by simpa [or_imp, forall_and, isSolid, blank] using solid)
          rw [List.length_append, List.length_singleton] at bound
          omega

/-- A word with a boundary behind it is read first. -/
theorem ofLine_append {remaining : List Char} (solid : ∀ char ∈ label.toList, isSolid char)
    (line_eq : line.toList = label.toList ++ remaining)
    (stops : (Cursor.mk label.toList remaining).atBoundary) :
    (Cursor.ofLine line).word = label.toList ∧
      (Cursor.ofLine line).skipWord = ⟨label.toList, remaining⟩ := by
  have start : Cursor.ofLine line = ⟨[], label.toList ++ remaining⟩ :=
    congrArg (Cursor.mk []) line_eq
  have stops : (Cursor.mk [] remaining).atBoundary := stops
  rw [start]
  exact ⟨Cursor.word_append solid stops, Cursor.skipWord_append solid stops⟩

/-- Each line has one label. -/
theorem iff_eq : Labelled line label behind ↔
    label = String.ofList (Cursor.ofLine line).word ∧ behind = (Cursor.ofLine line).skipWord := by
  constructor
  · intro labelled
    have boundary := labelled.atBoundary
    obtain ⟨consumed, remaining⟩ := behind
    obtain ⟨rfl, line_eq, solid, _⟩ := labelled
    obtain ⟨word, left⟩ := ofLine_append solid line_eq.symm boundary
    rw [word, left]
    exact ⟨String.ofList_toList.symm, rfl⟩
  · rintro ⟨rfl, rfl⟩
    refine ⟨?_, (Cursor.ofLine line).reaches_skipWord.line_eq, ?_, ?_⟩
    · rw [Cursor.skipWord_eq, String.toList_ofList]
      rfl
    · rw [String.toList_ofList]
      exact fun char member => Cursor.solid_of_mem_word member
    · intro text rest split solid
      have word : (Cursor.ofLine line).word = text ++ rest.takeWhile isSolid := by
        rw [← List.takeWhile_append_of_pos solid, ← split]
        rfl
      simp [word]

theorem unique {otherLabel : String} {other : Cursor} (first : Labelled line label behind)
    (second : Labelled line otherLabel other) : label = otherLabel ∧ behind = other := by
  obtain ⟨rfl, rfl⟩ := iff_eq.mp first
  obtain ⟨rfl, rfl⟩ := iff_eq.mp second
  exact ⟨rfl, rfl⟩

theorem ofLine (line : String) :
    Labelled line (String.ofList (Cursor.ofLine line).word) (Cursor.ofLine line).skipWord :=
  iff_eq.mpr ⟨rfl, rfl⟩

theorem of_append {remaining : List Char} (solid : ∀ char ∈ label.toList, isSolid char)
    (line_eq : line.toList = label.toList ++ remaining)
    (stops : (Cursor.mk label.toList remaining).atBoundary) :
    Labelled line label ⟨label.toList, remaining⟩ := by
  obtain ⟨word, left⟩ := ofLine_append solid line_eq stops
  exact iff_eq.mpr ⟨by rw [word, String.ofList_toList], left.symm⟩

end Labelled

/-! ### Answers -/

namespace Command

variable {ω : Type}

/-- The permission or the requirement of a command rejects senders. -/
def Rejects (command : Command ω) (sender : Sender) : Prop :=
  (∃ permission, command.heading.permission = some permission ∧ sender.holds permission = false) ∨
    ∃ requirement, command.requirement = some requirement ∧ requirement sender = false

/-- A command takes on lines that start with one of its labels, from senders that may use it. -/
structure Admits (command : Command ω) (sender : Sender) (line label : String)
    (behind : Cursor) : Prop where
  labelled : Labelled line label behind
  known : label ∈ command.labels
  usable : ¬ command.Rejects sender

/-- This is how a command answers a line. -/
inductive Answers (command : Command ω) (sender : Sender) (line : String) :
    Except DispatchError (Call ω) → Prop where
  | unknownCommand {label : String} {behind : Cursor} (labelled : Labelled line label behind)
      (unknown : label ∉ command.labels) :
      Answers command sender line (.error (.unknownCommand label))
  | permissionDenied {label : String} {behind : Cursor} (labelled : Labelled line label behind)
      (known : label ∈ command.labels) (rejected : command.Rejects sender) :
      Answers command sender line (.error (.permissionDenied command.name))
  | unknownArgument {label : String} {behind : Cursor} {route : Route ω}
      {cause : Option DecodeError} (admits : command.Admits sender line label behind)
      (follows : command.root.Follows sender Cursor.atBoundary behind route)
      (stuck : route.ending = .stuck cause) :
      Answers command sender line (.error (.unknownArgument route.place.offset line cause))
  | incompleteCommand {label : String} {behind : Cursor} {route : Route ω}
      (admits : command.Admits sender line label behind)
      (follows : command.root.Follows sender Cursor.atBoundary behind route)
      (exhausted : route.ending = .exhausted)
      (bare : ∀ node ∈ command.root :: route.nodes, node.executor = none) :
      Answers command sender line (.error (.incompleteCommand command.name (command.usage sender)))
  | call {label : String} {behind : Cursor} {route : Route ω} {above below : List (Node ω)}
      {node : Node ω} {executor : Executor ω} (admits : command.Admits sender line label behind)
      (follows : command.root.Follows sender Cursor.atBoundary behind route)
      (exhausted : route.ending = .exhausted)
      (nodes : command.root :: route.nodes = above ++ node :: below)
      (executes : node.executor = some executor)
      (last : ∀ other ∈ below, other.executor = none) :
      Answers command sender line
        (.ok ⟨executor, ⟨sender, line, label, route.arguments, command.heading⟩⟩)

variable {command : Command ω} {sender : Sender} {line label : String} {behind : Cursor}
  {route : Route ω}

/-- A command takes on any line that starts like one that it takes on, up to a place behind the
blank that ends the label. -/
theorem Admits.of_start {other : String} {place : Cursor} {word : List Char}
    (admits : command.Admits sender line label behind) (separated : behind.atBlank)
    (reaches : behind.Reaches place) (stops : place.atBlank = false)
    (other_eq : other.toList = place.consumed ++ word) :
    ∃ text, behind = ⟨label.toList, text ++ place.remaining⟩ ∧
      place = ⟨label.toList ++ text, place.remaining⟩ ∧
        (Cursor.mk label.toList (text ++ word)).atBlank ∧
          command.Admits sender other label ⟨label.toList, text ++ word⟩ := by
  obtain ⟨labelled, known, usable⟩ := admits
  obtain ⟨blank, text, separates, start, arrives⟩ := reaches.exists_blank separated stops
  rw [labelled.read] at start arrives
  have other_eq : other.toList = label.toList ++ ((blank :: text) ++ word) := by
    rw [other_eq, arrives, List.append_assoc]
  have boundary : (Cursor.mk label.toList ((blank :: text) ++ word)).atBoundary :=
    (Cursor.atBoundary_iff _).mpr (.inr separates)
  exact ⟨blank :: text, start, arrives, separates,
    .of_append labelled.solid other_eq boundary, known, usable⟩

theorem rejects_iff : command.Rejects sender ↔ command.usableBy sender = false := by
  unfold Rejects Draft.usableBy
  have visible : command.root.visibleTo sender = command.requirement.all (· sender) := rfl
  rw [visible, Bool.and_eq_false_iff]
  cases command.heading.permission <;> cases command.requirement <;> simp

theorem not_rejects_iff : ¬ command.Rejects sender ↔ command.usableBy sender := by
  rw [rejects_iff, Bool.not_eq_false]

theorem hasLabel_iff : command.hasLabel label ↔ label ∈ command.labels :=
  List.contains_iff_mem

end Command

namespace Route

variable {ω : Type} {root : Node ω} {route : Route ω}

theorem executor?_or (root : Node ω) (route : Route ω) :
    route.executor?.or root.executor = (root :: route.nodes).reverse.findSome? Node.executor := by
  simp [executor?, List.findSome?_append]

/-- An executor that is found belongs to the last node that has one. -/
theorem executor_eq_some_iff {executor : Executor ω} :
    route.executor?.or root.executor = some executor ↔
      ∃ above node below, root :: route.nodes = above ++ node :: below ∧
        node.executor = some executor ∧ ∀ other ∈ below, other.executor = none := by
  rw [executor?_or, List.findSome?_eq_some_iff]
  constructor
  · rintro ⟨below, node, above, split, executes, last⟩
    refine ⟨above.reverse, node, below.reverse, ?_, executes, by simpa using last⟩
    rw [← List.reverse_reverse (root :: route.nodes), split]
    simp
  · rintro ⟨above, node, below, split, executes, last⟩
    refine ⟨below.reverse, node, above.reverse, ?_, executes, by simpa using last⟩
    rw [split]
    simp

theorem executor_eq_none_iff :
    route.executor?.or root.executor = none ↔
      ∀ node ∈ root :: route.nodes, node.executor = none := by
  rw [executor?_or, List.findSome?_eq_none_iff]
  simp only [List.mem_reverse]

end Route

namespace Command

variable {ω : Type} {command : Command ω} {sender : Sender} {line label : String}
  {behind : Cursor} {route : Route ω} {outcome : Except DispatchError (Call ω)}

theorem resolve_of_unknown (labelled : Labelled line label behind)
    (unknown : label ∉ command.labels) :
    command.resolve sender line = .error (.unknownCommand label) := by
  obtain ⟨rfl, rfl⟩ := Labelled.iff_eq.mp labelled
  rw [← hasLabel_iff, Bool.not_eq_true] at unknown
  simp [resolve, unknown]

theorem resolve_of_rejects (labelled : Labelled line label behind)
    (known : label ∈ command.labels) (rejected : command.Rejects sender) :
    command.resolve sender line = .error (.permissionDenied command.name) := by
  obtain ⟨rfl, rfl⟩ := Labelled.iff_eq.mp labelled
  rw [← hasLabel_iff] at known
  rw [rejects_iff] at rejected
  simp [resolve, known, rejected]

/-- A line that is taken on is resolved where its route ends. -/
theorem resolve_of_admits (admits : command.Admits sender line label behind)
    (follows : command.root.Follows sender Cursor.atBoundary behind route) :
    command.resolve sender line =
      match route.ending with
      | .stuck cause => .error (.unknownArgument route.place.offset line cause)
      | .exhausted =>
          match route.executor?.or command.root.executor with
          | none => .error (.incompleteCommand command.name (command.usage sender))
          | some executor =>
              .ok ⟨executor, ⟨sender, line, label, route.arguments, command.heading⟩⟩ := by
  obtain ⟨labelled, known, usable⟩ := admits
  obtain ⟨rfl, rfl⟩ := Labelled.iff_eq.mp labelled
  rw [← hasLabel_iff] at known
  rw [not_rejects_iff] at usable
  have descends := command.descend_of_follows follows
  cases ending : route.ending with
  | stuck cause => simp [resolve, known, usable, descends, ending]
  | exhausted =>
      cases called : route.executor?.or command.root.executor with
      | none => simp [resolve, known, usable, descends, ending, called]
      | some executor => simp [resolve, known, usable, descends, ending, called]

theorem resolve_of_answers (answers : command.Answers sender line outcome) :
    command.resolve sender line = outcome := by
  cases answers with
  | unknownCommand labelled unknown => exact resolve_of_unknown labelled unknown
  | permissionDenied labelled known rejected => exact resolve_of_rejects labelled known rejected
  | unknownArgument admits follows stuck => rw [resolve_of_admits admits follows, stuck]
  | incompleteCommand admits follows exhausted bare =>
      rw [resolve_of_admits admits follows, exhausted, Route.executor_eq_none_iff.mpr bare]
  | call admits follows exhausted nodes executes last =>
      have called := Route.executor_eq_some_iff.mpr ⟨_, _, _, nodes, executes, last⟩
      rw [resolve_of_admits admits follows, exhausted, called]

theorem exists_answer (command : Command ω) (sender : Sender) (line : String) :
    ∃ outcome, command.Answers sender line outcome := by
  have labelled := Labelled.ofLine line
  by_cases unknown : String.ofList (Cursor.ofLine line).word ∉ command.labels
  · exact ⟨_, .unknownCommand labelled unknown⟩
  have known := Decidable.of_not_not unknown
  by_cases rejected : command.Rejects sender
  · exact ⟨_, .permissionDenied labelled known rejected⟩
  have admits : command.Admits sender line _ _ := ⟨labelled, known, rejected⟩
  obtain ⟨route, follows⟩ := Node.exists_follows sender Cursor.atBoundary command.root
    (Cursor.ofLine line).skipWord
  cases ending : route.ending with
  | stuck cause => exact ⟨_, .unknownArgument admits follows ending⟩
  | exhausted =>
      cases called : route.executor?.or command.root.executor with
      | none =>
          have bare := Route.executor_eq_none_iff.mp called
          exact ⟨_, .incompleteCommand admits follows ending bare⟩
      | some executor =>
          obtain ⟨above, node, below, nodes, executes, last⟩ := Route.executor_eq_some_iff.mp called
          exact ⟨_, .call admits follows ending nodes executes last⟩

/-- A command resolves a line to its one answer, and executes the call if it is one. -/
theorem resolve_eq_iff_answers (command : Command ω) (sender : Sender) (line : String) :
    (∀ outcome, command.resolve sender line = outcome ↔ command.Answers sender line outcome) ∧
      ∃ outcome, command.Answers sender line outcome ∧
        command.execute sender line = outcome.map Call.run := by
  obtain ⟨answer, answers⟩ := exists_answer command sender line
  have resolved := resolve_of_answers answers
  refine ⟨fun outcome => ⟨?_, resolve_of_answers⟩, answer, answers, ?_⟩
  · rintro rfl
    rwa [← resolved] at answers
  · rw [execute, resolved]

end Command

end CommandShell
