/-
This file collects suggestions into batches. The suggestions of a batch are sorted and no two of them
have the same text, so that a batch does not depend on the order in which it was collected.
-/

import CommandShell.Suggestion.Basic

namespace CommandShell

namespace Suggestion

/-- This is the order of the suggestions in a batch. -/
def Precedes (left right : Suggestion) : Prop :=
  left.compare right = .lt ∧ left.text ≠ right.text

/-- This keeps the first suggestion of each text. -/
def keepFirst : List Suggestion → List Suggestion
  | [] => []
  | suggestion :: rest =>
      suggestion :: (keepFirst rest).filter fun other => other.text ≠ suggestion.text

def canonical (suggestions : List Suggestion) : List Suggestion :=
  keepFirst (suggestions.mergeSort fun left right => (left.compare right).isLE)

theorem keepFirst_sublist (suggestions : List Suggestion) :
    (keepFirst suggestions).Sublist suggestions := by
  induction suggestions with
  | nil => exact .slnil
  | cons suggestion rest inductionHypothesis =>
      exact (List.filter_sublist.trans inductionHypothesis).cons_cons suggestion

theorem keepFirst_pairwise_text (suggestions : List Suggestion) :
    (keepFirst suggestions).Pairwise fun left right => left.text ≠ right.text := by
  induction suggestions with
  | nil => exact .nil
  | cons suggestion rest inductionHypothesis =>
      refine .cons ?_ (inductionHypothesis.sublist List.filter_sublist)
      intro other member
      have distinct := (List.mem_filter.mp member).2
      simp only [ne_eq, decide_eq_true_eq] at distinct
      exact fun same => distinct same.symm

theorem mergeSort_pairwise_isLE (suggestions : List Suggestion) :
    (suggestions.mergeSort fun left right => (left.compare right).isLE).Pairwise
      fun left right => (left.compare right).isLE = true := by
  apply List.pairwise_mergeSort
  · intro _ _ _ first second
    exact Std.TransCmp.isLE_trans first second
  · intro left right
    rw [@Std.OrientedCmp.eq_swap _ Suggestion.compare _ right left]
    cases left.compare right <;> rfl

theorem canonical_pairwise (suggestions : List Suggestion) :
    (canonical suggestions).Pairwise Precedes := by
  have sorted := (mergeSort_pairwise_isLE suggestions).sublist (keepFirst_sublist _)
  refine (sorted.and (keepFirst_pairwise_text _)).imp ?_
  intro left right ⟨ordered, distinct⟩
  refine ⟨?_, distinct⟩
  cases comparison : left.compare right with
  | lt => rfl
  | eq => exact absurd (congrArg Suggestion.text (eq_of_compare comparison)) distinct
  | gt => simp [comparison] at ordered

end Suggestion

/-- The suggestions of a batch replace parts of the span. -/
@[ext]
structure Batch where
  span : Span
  items : List Suggestion
  sorted : items.Pairwise Suggestion.Precedes
  deriving DecidableEq

namespace Batch

def ofList (span : Span) (suggestions : List Suggestion) : Batch where
  span := span
  items := Suggestion.canonical suggestions
  sorted := Suggestion.canonical_pairwise suggestions

def empty (offset : Nat) : Batch where
  span := Span.empty offset
  items := []
  sorted := .nil

def texts (batch : Batch) : List String :=
  batch.items.map Suggestion.text

/-- The merged batch covers all spans. One batch is left as it is, and no batch is empty at the start
of the line. -/
def merge : List Batch → Batch
  | [] => empty 0
  | [batch] => batch
  | first :: rest =>
      ofList ((rest.map span).foldl Span.cover first.span) ((first :: rest).flatMap items)

end Batch

end CommandShell
