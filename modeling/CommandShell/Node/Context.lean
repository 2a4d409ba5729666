/-
This file holds what a command learns about the line that invoked it.
-/

import CommandShell.Argument.Value
import CommandShell.Sender

namespace CommandShell

open Argument

/-- The name of an argument occurs once. -/
abbrev Arguments := List (String × Value)

namespace Arguments

/-- These are the arguments in the order of their names. -/
def sorted (arguments : Arguments) : Arguments :=
  arguments.mergeSort fun left right => left.1 ≤ right.1

def unbind (arguments : Arguments) (name : String) : Arguments :=
  arguments.filter fun argument => argument.1 ≠ name

/-- This gives an argument its value, in place of any value it has. -/
def bind (arguments : Arguments) (name : String) (value : Value) : Arguments :=
  arguments.unbind name ++ [(name, value)]

theorem unbind_of_fresh {arguments : Arguments} {name : String}
    (fresh : ∀ argument ∈ arguments, argument.1 ≠ name) : arguments.unbind name = arguments := by
  unfold unbind
  exact List.filter_eq_self.mpr fun argument member => decide_eq_true (fresh argument member)

theorem bind_of_fresh {arguments : Arguments} {name : String} (value : Value)
    (fresh : ∀ argument ∈ arguments, argument.1 ≠ name) :
    arguments.bind name value = arguments ++ [(name, value)] := by
  rw [bind, unbind_of_fresh fresh]

theorem lookup_unbind_self (arguments : Arguments) (name : String) :
    (arguments.unbind name).lookup name = none := by
  rw [List.lookup_eq_none_iff]
  intro argument member
  have kept := of_decide_eq_true (List.mem_filter.mp member).2
  exact bne_iff_ne.mpr (Ne.symm kept)

theorem lookup_unbind_of_ne (arguments : Arguments) {name other : String}
    (different : other ≠ name) :
    (arguments.unbind name).lookup other = arguments.lookup other := by
  induction arguments with
  | nil => rfl
  | cons argument rest inductionHypothesis =>
      obtain ⟨key, value⟩ := argument
      rw [unbind, List.filter_cons, List.lookup_cons]
      by_cases same : key = name
      · have passed : (other == key) = false := beq_false_of_ne (same ▸ different)
        rw [if_neg (by simp [same]), passed]
        exact inductionHypothesis
      · rw [if_pos (by simp [same]), List.lookup_cons]
        cases other == key with
        | true => rfl
        | false => exact inductionHypothesis

theorem lookup_bind_self (arguments : Arguments) (name : String) (value : Value) :
    (arguments.bind name value).lookup name = some value := by
  rw [bind, List.lookup_append, lookup_unbind_self, List.lookup_cons_self, Option.none_or]

/-- Giving one argument a value changes no other. -/
theorem lookup_bind_of_ne (arguments : Arguments) {name other : String} (different : other ≠ name)
    (value : Value) : (arguments.bind name value).lookup other = arguments.lookup other := by
  rw [bind, List.lookup_append, lookup_unbind_of_ne arguments different, List.lookup_cons,
    beq_false_of_ne different, List.lookup_nil, Option.or_none]

/-- A value that is taken back leaves no trace. -/
theorem unbind_bind_of_fresh {arguments : Arguments} {name : String} (value : Value)
    (fresh : ∀ argument ∈ arguments, argument.1 ≠ name) :
    (arguments.bind name value).unbind name = arguments := by
  rw [bind_of_fresh value fresh, unbind, List.filter_append]
  simpa [unbind] using unbind_of_fresh fresh

end Arguments

/-- This is what a command says about itself. -/
structure Heading where
  name : String
  aliases : List String
  /-- Senders need this permission to use the command. -/
  permission : Option String
  description : String
  deriving Repr, DecidableEq

namespace Heading

def ofName (name : String) : Heading := ⟨name, [], none, ""⟩

/-- A line names a command by its name or by an alias. -/
def labels (heading : Heading) : List String :=
  heading.name :: heading.aliases

end Heading

structure Context where
  sender : Sender
  line : String
  label : String
  arguments : Arguments
  command : Heading
  deriving Repr, DecidableEq

inductive LookupError where
  | missing (name : String)
  | mistyped (name : String) (value : Value) (use : String)
  deriving Repr, DecidableEq

def LookupError.message : LookupError → String
  | .missing name => "No such argument '" ++ name ++ "' exists on this command"
  | .mistyped name value use =>
      "Argument '" ++ name ++ "' is defined as " ++ value.inspect ++ ", not " ++ use

namespace Context

def argument? (context : Context) (name : String) : Option Value :=
  context.arguments.lookup name

def get {α : Type} (context : Context) (use : Use α) (name : String) : Except LookupError α :=
  match context.argument? name with
  | none => .error (.missing name)
  | some value =>
      match use.take? value with
      | none => .error (.mistyped name value use.name)
      | some result => .ok result

def getD {α : Type} (context : Context) (use : Use α) (name : String) (default : α) : α :=
  ((context.argument? name).bind use.take?).getD default

end Context

end CommandShell
