/-
This file shows what the standard commands do. They inspect what they need before they reply to the
sender or change the world, so that an act that fails leaves nothing behind.
-/

import CommandShell.World.Commands

namespace CommandShell

open Argument

namespace Act

variable {α β : Type}

/-! ### Steps of an act -/

theorem perform_bind (first : Act α) (next : α → Act β) (before : Progress) :
    (first >>= next).perform before =
      match first.perform before with
      | (.ok value, after) => (next value).perform after
      | (.error message, after) => (.error message, after) := by
  unfold perform ExceptT.run
  simp only [bind, ExceptT.bind, ExceptT.mk, StateT.bind, ExceptT.bindCont]
  cases first before with
  | mk result after => cases result <;> rfl

theorem perform_bind_of_ok {first : Act α} {value : α} {before after : Progress}
    (performed : first.perform before = (.ok value, after)) (next : α → Act β) :
    (first >>= next).perform before = (next value).perform after := by
  rw [perform_bind, performed]

@[simp]
theorem perform_pure (value : α) (before : Progress) :
    (pure value : Act α).perform before = (.ok value, before) := rfl

@[simp]
theorem perform_throw (message : String) (before : Progress) :
    (throw message : Act α).perform before = (.error message, before) := rfl

@[simp]
theorem perform_reply (message : String) (before : Progress) :
    (reply message).perform before =
      (.ok (), { before with replies := before.replies ++ [message] }) := rfl

@[simp]
theorem perform_readRoster (before : Progress) :
    readRoster.perform before = (.ok before.world.roster, before) := rfl

@[simp]
theorem perform_changeRoster (change : Roster → Bool × Roster) (before : Progress) :
    (changeRoster change).perform before =
      (.ok (change before.world.roster).1,
        { before with world.roster := (change before.world.roster).2 }) := rfl

@[simp]
theorem perform_readFlag (name : String) (before : Progress) :
    (readFlag name).perform before = (.ok (before.world.flags.get name), before) := rfl

@[simp]
theorem perform_setFlag (name : String) (value : Bool) (before : Progress) :
    (setFlag name value).perform before =
      (.ok (), { before with world.flags := before.world.flags.set name value }) := rfl

theorem perform_require_of_ok {context : Context} {use : Use α} {name : String} {value : α}
    (found : context.get use name = .ok value) (before : Progress) :
    (require context use name).perform before = (.ok value, before) := by
  rw [require, found, perform_pure]

/-! ### Acts that leave no trace when they fail -/

/-- An act that inspects changes nothing, whether it fails or not. -/
def Inspects (act : Act α) : Prop :=
  ∀ before, ∃ result, act.perform before = (result, before)

/-- An act that reports ends well and does no more than reply. -/
def Reports (act : Act α) : Prop :=
  ∀ before, ∃ value replies,
    act.perform before = (.ok value, { before with replies := before.replies ++ replies })

/-- A harmless act fails without a trace, or ends well and does no more than reply. -/
def Harmless (act : Act α) : Prop :=
  ∀ before, (∃ message, act.perform before = (.error message, before)) ∨
    ∃ value replies,
      act.perform before = (.ok value, { before with replies := before.replies ++ replies })

theorem inspects_require (context : Context) (use : Use α) (name : String) :
    (require context use name).Inspects := by
  intro before
  unfold require
  split
  · exact ⟨_, perform_pure _ before⟩
  · exact ⟨_, perform_throw _ before⟩

theorem inspects_requireOnline (name : String) : (requireOnline name).Inspects := by
  intro before
  rw [requireOnline, perform_bind_of_ok (perform_readRoster before)]
  split
  · exact ⟨_, perform_pure () before⟩
  · exact ⟨_, perform_throw _ before⟩

theorem reports_pure (value : α) : (pure value : Act α).Reports := by
  intro before
  exact ⟨value, [], by rw [perform_pure, List.append_nil]⟩

theorem Reports.bind {first : Act α} {next : α → Act β} (reports : first.Reports)
    (rest : ∀ value, (next value).Reports) : (first >>= next).Reports := by
  intro before
  obtain ⟨value, replies, performed⟩ := reports before
  obtain ⟨last, more, ended⟩ := rest value { before with replies := before.replies ++ replies }
  refine ⟨last, replies ++ more, ?_⟩
  rw [perform_bind_of_ok performed, ended, List.append_assoc]

theorem reports_reply (message : String) : (reply message).Reports := fun before =>
  ⟨(), [message], perform_reply message before⟩

theorem reports_replyEach (messages : List String) : (replyEach messages).Reports := by
  induction messages with
  | nil => exact reports_pure ()
  | cons message rest inductionHypothesis =>
      exact (reports_reply message).bind fun _ => inductionHypothesis

theorem Reports.harmless {act : Act α} (reports : act.Reports) : act.Harmless := fun before =>
  .inr (reports before)

theorem harmless_throw (message : String) : (throw message : Act α).Harmless := fun before =>
  .inl ⟨message, perform_throw message before⟩

/-- Inspecting first does no harm. -/
theorem Inspects.harmless_bind {first : Act α} {next : α → Act β} (inspects : first.Inspects)
    (rest : ∀ value, (next value).Harmless) : (first >>= next).Harmless := by
  intro before
  obtain ⟨result, performed⟩ := inspects before
  rw [perform_bind, performed]
  cases result with
  | error message => exact .inl ⟨message, rfl⟩
  | ok value => exact rest value before

/-- A reply and a number end most acts. -/
theorem reports_ending (message : String) (code : Int) :
    (do reply message; return code : Outcome).Reports :=
  (reports_reply message).bind fun _ => reports_pure code

end Act

/-! ### Commands that leave the world alone -/

open Act

theorem Guide.harmless_list (guide : Guide) (context : Context) : (guide.list context).Harmless :=
  ((reports_replyEach _).bind fun _ => reports_pure _).harmless

theorem Guide.harmless_describe (guide : Guide) (context : Context) :
    (guide.describe context).Harmless := by
  refine (inspects_require context .text "command").harmless_bind fun label => ?_
  split
  · exact harmless_throw _
  · refine Reports.harmless ?_
    exact (reports_replyEach _).bind fun _ => (reports_replyEach _).bind fun _ =>
      (reports_replyEach _).bind fun _ => reports_pure _

namespace World

theorem harmless_sayMessage (context : Context) : (sayMessage context).Harmless :=
  (inspects_require context .text "message").harmless_bind fun message =>
    (reports_ending message _).harmless

theorem harmless_giveItems (context : Context) (count : Int) :
    (giveItems context count).Harmless :=
  (inspects_require context .text "target").harmless_bind fun target =>
    (inspects_require context .text "item").harmless_bind fun _ =>
      (inspects_requireOnline target).harmless_bind fun _ => (reports_ending _ count).harmless

theorem harmless_giveCount (context : Context) : (giveCount context).Harmless :=
  (inspects_require context .integer "count").harmless_bind (harmless_giveItems context)

theorem harmless_setOwnMode (mode : String × Int) : (setOwnMode mode).Harmless :=
  (reports_ending _ mode.2).harmless

theorem harmless_setMode (mode : String × Int) (context : Context) :
    (setMode mode context).Harmless :=
  (inspects_require context .text "target").harmless_bind fun target =>
    (inspects_requireOnline target).harmless_bind fun _ => (reports_ending _ mode.2).harmless

theorem harmless_teleportTo (context : Context) (who : String) :
    (teleportTo context who).Harmless :=
  (inspects_require context .double "x").harmless_bind fun _ =>
    (inspects_require context .double "y").harmless_bind fun _ =>
      (inspects_require context .double "z").harmless_bind fun _ => (reports_ending _ 1).harmless

theorem harmless_teleportTarget (context : Context) : (teleportTarget context).Harmless :=
  (inspects_require context .text "target").harmless_bind fun target =>
    (inspects_requireOnline target).harmless_bind fun _ => harmless_teleportTo context target

end World

end CommandShell
