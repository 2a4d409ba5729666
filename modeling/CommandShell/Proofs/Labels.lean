/-
This file says which labels a command may have: each of them can be typed as a word, and none is
taken before it. The first label that breaks a rule is the fault that the check of them finds.
-/

import CommandShell.Command.Basic

namespace CommandShell

open Text

/-- Literals and labels are not empty and hold no blank. -/
def IsLabel (text : String) : Prop :=
  text ≠ "" ∧ ∀ char ∈ text.toList, isBlank char = false

instance (text : String) : Decidable (IsLabel text) :=
  inferInstanceAs (Decidable (_ ∧ _))

theorem isWord_iff_isLabel {text : String} : isWord text.toList ↔ IsLabel text := by
  simp [isWord, IsLabel, isSolid, List.isEmpty_eq_false_iff]

namespace Draft

variable {taken labels : List String} {number : Nat} {label : String} {error : BuildError}

/-- This checks one label by itself. -/
def labelFault? (taken : List String) (label : String) : Option BuildError :=
  if !isWord label.toList then some (.invalidLiteral label)
  else if label ∈ taken then some (.duplicateLabel label)
  else none

theorem labelViolation?_cons (taken : List String) (label : String) (labels : List String) :
    labelViolation? taken (label :: labels) =
      (labelFault? taken label).or (labelViolation? (taken ++ [label]) labels) := by
  rw [labelViolation?, labelFault?]
  split
  · rfl
  · split <;> rfl

theorem labelFault?_eq (taken : List String) (label : String) :
    labelFault? taken label =
      if ¬ IsLabel label then some (.invalidLiteral label)
      else if label ∈ taken then some (.duplicateLabel label)
      else none := by
  have same : (!isWord label.toList) = true ↔ ¬ IsLabel label := by
    rw [← isWord_iff_isLabel, Bool.not_eq_true', Bool.not_eq_true]
  simp only [labelFault?, same]

theorem labelFault?_eq_none_iff :
    labelFault? taken label = none ↔ IsLabel label ∧ label ∉ taken := by
  rw [labelFault?_eq]
  by_cases spelled : IsLabel label <;> by_cases known : label ∈ taken <;> simp [spelled, known]

theorem labelViolation?_eq_none_iff :
    labelViolation? taken labels = none ↔
      (∀ label ∈ labels, IsLabel label) ∧ labels.Nodup ∧ ∀ label ∈ labels, label ∉ taken := by
  induction labels generalizing taken with
  | nil => simp [labelViolation?]
  | cons label rest inductionHypothesis =>
      rw [labelViolation?_cons, Option.or_eq_none_iff, labelFault?_eq_none_iff,
        inductionHypothesis, List.forall_mem_cons, List.forall_mem_cons, List.nodup_cons]
      simp only [List.mem_append, List.mem_singleton, not_or]
      constructor
      · rintro ⟨⟨spelled, unknown⟩, others, distinct, new⟩
        exact ⟨⟨spelled, others⟩, ⟨fun member => (new label member).2 rfl, distinct⟩, unknown,
          fun other member => (new other member).1⟩
      · rintro ⟨⟨spelled, others⟩, ⟨once, distinct⟩, unknown, new⟩
        exact ⟨⟨spelled, unknown⟩, others, distinct, fun other member =>
          ⟨new other member, fun same => once (same ▸ member)⟩⟩

/-- The labels of a command are distinct if its aliases are, and none of them is the name. -/
theorem nodup_labels_iff {ω : Type} (draft : Draft ω) :
    draft.labels.Nodup ↔ draft.heading.aliases.Nodup ∧
      ∀ label ∈ draft.heading.aliases, label ∉ [draft.name] := by
  have cons : draft.labels = draft.name :: draft.heading.aliases := rfl
  rw [cons, List.nodup_cons, and_comm]
  simp only [List.mem_singleton]
  exact and_congr_right fun _ => ⟨fun new label member same => new (same ▸ member),
    fun new member => new draft.name member rfl⟩

/-! ### The first break -/

/-- This is how the label of a number breaks a rule, given the labels that are taken before all. -/
inductive LabelBreaks (taken labels : List String) (number : Nat) : BuildError → Prop where
  | invalidLiteral {label : String} (listed : labels[number]? = some label)
      (misspelled : ¬ IsLabel label) : LabelBreaks taken labels number (.invalidLiteral label)
  | duplicateLabel {label : String} (listed : labels[number]? = some label)
      (spelled : IsLabel label) (known : label ∈ taken ++ labels.take number) :
      LabelBreaks taken labels number (.duplicateLabel label)

theorem labelBreaks_succ_iff :
    LabelBreaks taken (label :: labels) (number + 1) error ↔
      LabelBreaks (taken ++ [label]) labels number error := by
  constructor
  · rintro (⟨listed, misspelled⟩ | ⟨listed, spelled, known⟩)
    · exact .invalidLiteral listed misspelled
    · exact .duplicateLabel listed spelled (by simpa using known)
  · rintro (⟨listed, misspelled⟩ | ⟨listed, spelled, known⟩)
    · exact .invalidLiteral listed misspelled
    · exact .duplicateLabel listed spelled (by simpa using known)

theorem labelBreaks_zero_iff :
    LabelBreaks taken (label :: labels) 0 error ↔ labelFault? taken label = some error := by
  rw [labelFault?_eq]
  constructor
  · rintro (⟨listed, misspelled⟩ | ⟨listed, spelled, known⟩)
    · obtain rfl := Option.some.inj listed
      rw [if_pos misspelled]
    · obtain rfl := Option.some.inj listed
      have known : label ∈ taken := by simpa using known
      rw [if_neg (not_not_intro spelled), if_pos known]
  · intro fault
    split at fault
    · rename_i misspelled
      cases fault
      exact .invalidLiteral rfl misspelled
    · rename_i spelled
      split at fault
      · rename_i known
        cases fault
        exact .duplicateLabel rfl (Decidable.of_not_not spelled) (by simpa using known)
      · cases fault

theorem labelViolation?_eq_some_iff :
    labelViolation? taken labels = some error ↔ ∃ number, LabelBreaks taken labels number error ∧
      ∀ earlier < number, ∀ error, ¬ LabelBreaks taken labels earlier error := by
  induction labels generalizing taken with
  | nil =>
      refine iff_of_false (fun fault => nomatch fault) ?_
      rintro ⟨number, ⟨listed, _⟩ | ⟨listed, _⟩, _⟩ <;> cases listed
  | cons label labels inductionHypothesis =>
      rw [labelViolation?_cons, Option.or_eq_some_iff, inductionHypothesis]
      constructor
      · rintro (own | ⟨sound, number, breaks, first⟩)
        · exact ⟨0, labelBreaks_zero_iff.mpr own,
            fun earlier before => absurd before earlier.not_lt_zero⟩
        · refine ⟨number + 1, labelBreaks_succ_iff.mpr breaks, fun earlier before other => ?_⟩
          -- Behind the first label the numbers are lower by one, and it is taken like those before.
          cases earlier with
          | zero =>
              rw [labelBreaks_zero_iff, sound]
              exact fun fault => nomatch fault
          | succ earlier =>
              rw [labelBreaks_succ_iff]
              exact first earlier (Nat.lt_of_succ_lt_succ before) other
      · rintro ⟨number, breaks, first⟩
        cases number with
        | zero => exact .inl (labelBreaks_zero_iff.mp breaks)
        | succ number =>
            have sound : labelFault? taken label = none :=
              Option.eq_none_iff_forall_ne_some.mpr fun other fault =>
                first 0 number.succ_pos other (labelBreaks_zero_iff.mpr fault)
            refine .inr ⟨sound, number, labelBreaks_succ_iff.mp breaks, ?_⟩
            intro earlier before other
            rw [← labelBreaks_succ_iff]
            exact first (earlier + 1) (Nat.succ_lt_succ before) other

end Draft

end CommandShell
