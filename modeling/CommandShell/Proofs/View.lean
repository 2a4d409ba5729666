/-
This file says what a world is in the abstract: a set of names and a map of flags. It shows how the
acts on the roster and the flags look there.
-/

import CommandShell.Proofs.Act
import Mathlib.Data.Set.Insert
import Mathlib.Logic.Function.Basic

namespace CommandShell

open Argument

/-- Names are online or not, and flags that were ever set have a value. -/
structure View where
  online : Set String
  values : String → Option Bool

def World.view (world : World) : View where
  online := {name | world.roster.contains name}
  values name := world.flags.entries.lookup name

/-- These are the ways in which lines change the world. -/
inductive Change where
  | join (name : String)
  | leave (name : String)
  | switch (flag : String) (value : Bool)
  deriving Repr, DecidableEq

namespace Change

/-- The words of a line spell a change of the world, or none. -/
def ofWords? : List String → Option Change
  | ["roster", "add", name] => some (.join name)
  | ["roster", "remove", name] => some (.leave name)
  | ["toggle", flag, state] => (readBoolean state.toList).toOption.map (.switch flag)
  | _ => none

theorem words_of_spelled {words : List String} {change : Change}
    (spelled : ofWords? words = some change) :
    match change with
    | .join name => words = ["roster", "add", name]
    | .leave name => words = ["roster", "remove", name]
    | .switch flag value =>
        ∃ state, words = ["toggle", flag, state] ∧ (readBoolean state.toList).toOption = some value := by
  unfold ofWords? at spelled
  split at spelled
  · cases spelled
    rfl
  · cases spelled
    rfl
  · obtain ⟨value, given, rfl⟩ := Option.map_eq_some_iff.mp spelled
    exact ⟨_, rfl, given⟩
  · cases spelled

theorem exists_words_of_spelled {words : List String} {change : Change}
    (spelled : ofWords? words = some change) : ∃ label rest, words = label :: rest := by
  cases words with
  | nil => cases spelled
  | cons label rest => exact ⟨label, rest, rfl⟩

/-- Only lines of the roster and of the flags spell changes. -/
theorem ofWords?_of_other {label : String} (notRoster : label ≠ "roster")
    (notToggle : label ≠ "toggle") (words : List String) : ofWords? (label :: words) = none := by
  cases spelled : ofWords? (label :: words) with
  | none => rfl
  | some change =>
      have told := words_of_spelled spelled
      cases change with
      | join name | leave name => exact absurd (List.cons.inj told).1 notRoster
      | switch flag value =>
          obtain ⟨state, told, _⟩ := told
          exact absurd (List.cons.inj told).1 notToggle

def permission : Change → String
  | .join _ | .leave _ => "cmdtree.roster"
  | .switch _ _ => "cmdtree.toggle"

def code : Change → Int
  | .join _ | .leave _ => 1
  | .switch _ value => if value then 1 else 0

def reply : Change → String
  | .join name => name ++ " joined"
  | .leave name => name ++ " left"
  | .switch flag value => flag ++ " is now " ++ if value then "on" else "off"

def apply (world : World) : Change → World
  | .join name => { world with roster := world.roster.insert name }
  | .leave name => { world with roster := world.roster.erase name }
  | .switch flag value => { world with flags := world.flags.set flag value }

/-- This is the value that a change gives to a flag. -/
def valueOf? (flag : String) : Change → Option Bool
  | .join _ | .leave _ => none
  | .switch other value => if flag = other then some value else none

end Change

namespace View

/-- Only who is not online can join, and only who is online can leave. -/
def Permits (view : View) : Change → Prop
  | .join name => name ∉ view.online
  | .leave name => name ∈ view.online
  | .switch _ _ => True

def apply (view : View) : Change → View
  | .join name => { view with online := insert name view.online }
  | .leave name => { view with online := view.online \ {name} }
  | .switch flag value => { view with values := Function.update view.values flag (some value) }

/-- A line that is executed changes the set or the map, or answers from them, or has nothing to do
with them. -/
inductive Executes (view : View) : List String → Int → List String → View → Prop where
  | change {words : List String} {change : Change} (spelled : Change.ofWords? words = some change)
      (permitted : view.Permits change) :
      Executes view words change.code [change.reply] (view.apply change)
  | nobody (offline : view.online = ∅) :
      Executes view ["roster", "list"] 0 ["Nobody is online"] view
  | list {names : List String} (occupied : names ≠ []) (sorted : names.Pairwise (· < ·))
      (complete : ∀ name, name ∈ names ↔ name ∈ view.online) :
      Executes view ["roster", "list"] (min names.length 2147483647)
        ["Online (" ++ toString names.length ++ "): " ++ ", ".intercalate names] view
  | flag {name : String} {value : Bool} (last : (view.values name).getD false = value) :
      Executes view ["toggle", name] (if value then 1 else 0)
        [name ++ " is " ++ if value then "on" else "off"] view
  | other {label : String} {words : List String} {code : Int} {replies : List String}
      (notRoster : label ≠ "roster") (notToggle : label ≠ "toggle") :
      Executes view (label :: words) code replies view

/-- A line that spells a change is only executed where the change is possible. -/
theorem Executes.permits {view after : View} {words : List String} {code : Int}
    {replies : List String} {change : Change} (executes : view.Executes words code replies after)
    (spelled : Change.ofWords? words = some change) : view.Permits change := by
  cases executes with
  | change otherSpelled permitted =>
      obtain rfl := Option.some.inj (otherSpelled.symm.trans spelled)
      exact permitted
  | nobody | list | flag => cases spelled
  | other notRoster notToggle =>
      rw [Change.ofWords?_of_other notRoster notToggle] at spelled
      cases spelled

/-- The last change of a flag gives it its value. -/
theorem values_foldl (view : View) (changes : List Change) (flag : String) :
    (changes.foldl apply view).values flag =
      (changes.reverse.findSome? (Change.valueOf? flag)).or (view.values flag) := by
  induction changes generalizing view with
  | nil => rfl
  | cons change rest inductionHypothesis =>
      rw [List.foldl_cons, inductionHypothesis, List.reverse_cons, List.findSome?_append,
        Option.or_assoc]
      congr 1
      cases change with
      | join name | leave name => rfl
      | switch other value =>
          by_cases same : flag = other <;> simp [apply, Change.valueOf?, Function.update, same]

end View

theorem Change.view_apply (change : Change) (world : World) :
    (change.apply world).view = world.view.apply change := by
  cases change with
  | join name =>
      refine congrArg (View.mk · _) (Set.ext fun other => ?_)
      simp [World.view, apply]
  | leave name =>
      refine congrArg (View.mk · _) (Set.ext fun other => ?_)
      simp [World.view, apply, and_comm]
  | switch flag value =>
      refine congrArg (View.mk _) (funext fun other => ?_)
      rw [Function.update_apply]
      exact Flags.lookup_setEntry flag other value world.flags.entries

/-! ### Acts on the roster and the flags -/

/-- An act carries out a change, or fails without a trace where the change is not possible. -/
def Act.CarriesOut (act : Outcome) (change : Change) : Prop :=
  ∀ before,
    (before.world.view.Permits change ∧ act.perform before =
      (.ok change.code, ⟨before.replies ++ [change.reply], change.apply before.world⟩)) ∨
    (¬ before.world.view.Permits change ∧ ∃ message, act.perform before = (.error message, before))

namespace World

open Act

variable {context : Context} {name : String}

theorem carriesOut_joinRoster (named : context.get .text "name" = .ok name) :
    (joinRoster context).CarriesOut (.join name) := by
  intro before
  have changes := perform_changeRoster (·.add name) before
  rw [joinRoster, perform_bind_of_ok (perform_require_of_ok named before),
    perform_bind_of_ok changes]
  cases online : before.world.roster.contains name with
  | true =>
      refine .inr ⟨by simp [View.Permits, view, online], name ++ " is already online", ?_⟩
      simp [Roster.add, online, Roster.insert_of_contains online]
  | false =>
      refine .inl ⟨by simp [View.Permits, view, online], ?_⟩
      rw [Roster.add, online, Bool.not_false, if_pos rfl,
        perform_bind_of_ok (perform_reply _ _), perform_pure]
      rfl

theorem carriesOut_leaveRoster (named : context.get .text "name" = .ok name) :
    (leaveRoster context).CarriesOut (.leave name) := by
  intro before
  have changes := perform_changeRoster (·.remove name) before
  rw [leaveRoster, perform_bind_of_ok (perform_require_of_ok named before),
    perform_bind_of_ok changes]
  cases online : before.world.roster.contains name with
  | true =>
      refine .inl ⟨by simp [View.Permits, view, online], ?_⟩
      rw [Roster.remove, online, if_pos rfl, perform_bind_of_ok (perform_reply _ _), perform_pure]
      rfl
  | false =>
      refine .inr ⟨by simp [View.Permits, view, online], name ++ " is not online", ?_⟩
      simp [Roster.remove, online, Roster.erase_of_not_contains]

theorem carriesOut_switchFlag {flag : String} {state : Bool}
    (named : context.get .text "flag" = .ok flag) (given : context.get .boolean "state" = .ok state) :
    (switchFlag context).CarriesOut (.switch flag state) := by
  intro before
  refine .inl ⟨trivial, ?_⟩
  rw [switchFlag, perform_bind_of_ok (perform_require_of_ok named before),
    perform_bind_of_ok (perform_require_of_ok given before),
    perform_bind_of_ok (perform_setFlag flag state before), perform_bind_of_ok (perform_reply _ _),
    perform_pure]
  rfl

/-- The roster is listed as the set of names says. -/
theorem executes_listRoster (world : World) : ∃ code replies,
    listRoster.perform ⟨[], world⟩ = (.ok code, ⟨replies, world⟩) ∧
      world.view.Executes ["roster", "list"] code replies world.view := by
  have listed : listRoster.perform ⟨[], world⟩ =
      (.ok (saturate world.roster.names.length), ⟨[rosterReport world.roster.names], world⟩) := by
    rw [listRoster, perform_bind_of_ok (perform_readRoster _),
      perform_bind_of_ok (perform_reply _ _), perform_pure]
    rfl
  have online (name : String) : name ∈ world.roster.names ↔ name ∈ world.view.online := by
    simp [view, Roster.contains]
  refine ⟨_, _, listed, ?_⟩
  by_cases nobody : world.roster.names = []
  · rw [nobody]
    exact .nobody (Set.eq_empty_of_forall_notMem fun name member => by
      simpa [nobody] using (online name).mpr member)
  · rw [rosterReport, if_neg (mt List.isEmpty_iff.mp nobody)]
    exact .list nobody world.roster.sorted online

/-- A flag is shown as the map says. -/
theorem executes_showFlag {flag : String} (named : context.get .text "flag" = .ok flag)
    (world : World) : ∃ code replies,
    (showFlag context).perform ⟨[], world⟩ = (.ok code, ⟨replies, world⟩) ∧
      world.view.Executes ["toggle", flag] code replies world.view := by
  refine ⟨_, _, ?_, .flag rfl⟩
  rw [showFlag, perform_bind_of_ok (perform_require_of_ok named _),
    perform_bind_of_ok (perform_readFlag flag _), perform_bind_of_ok (perform_reply _ _),
    perform_pure]
  rfl

end World

end CommandShell
