/-
This file says which lists are in canonical form. Of the suggestions with one text the least is
kept, and what is kept is in strict order, so that each list has one canonical form.
-/

import CommandShell.Proofs.Gathering

namespace CommandShell

namespace Suggestion

variable {left middle right suggestion other : Suggestion} {suggestions kept : List Suggestion}

/-! ### The order of suggestions -/

theorem compare_swap (left right : Suggestion) : right.compare left = (left.compare right).swap :=
  Std.OrientedCmp.eq_swap

theorem isLE_trans (first : (left.compare middle).isLE) (second : (middle.compare right).isLE) :
    (left.compare right).isLE :=
  Std.TransCmp.isLE_trans first second

/-- Of two suggestions with one text the one without a tooltip is the lesser. -/
theorem tooltip_eq_none_of_isLE (same : other.text = suggestion.text) (plain : other.tooltip = none)
    (below : (suggestion.compare other).isLE) : suggestion.tooltip = none := by
  have lowered : suggestion.lowered = other.lowered := by
    rw [Suggestion.lowered, Suggestion.lowered, same]
  cases described : suggestion.tooltip with
  | none => rfl
  | some tooltip =>
      have behind : Ord.compare (some tooltip) none = .gt := rfl
      have greater : suggestion.compare other = .gt := by
        simp [Suggestion.compare, compareLex, compareOn, lowered, same, plain, described, behind]
      simp [greater] at below

/-! ### Canonical forms -/

/-- What is kept of some suggestions is in strict order, and of each text it is the least one. -/
structure CanonicalForm (suggestions kept : List Suggestion) : Prop where
  increasing : kept.Pairwise fun left right => left.compare right = .lt
  distinct : kept.Pairwise fun left right => left.text ≠ right.text
  texts : ∀ text, text ∈ kept.map Suggestion.text ↔ text ∈ suggestions.map Suggestion.text
  least : ∀ suggestion ∈ kept, Chosen suggestions suggestion

namespace CanonicalForm

theorem pairwise (form : CanonicalForm suggestions kept) : kept.Pairwise Precedes :=
  form.increasing.and form.distinct

/-- All least suggestions are kept. -/
theorem mem_iff (form : CanonicalForm suggestions kept) :
    suggestion ∈ kept ↔ Chosen suggestions suggestion := by
  constructor
  · exact form.least suggestion
  · intro chosen
    have text : suggestion.text ∈ kept.map Suggestion.text :=
      (form.texts _).mpr (List.mem_map_of_mem chosen.mem)
    obtain ⟨other, member, same⟩ := List.mem_map.mp text
    have least := form.least other member
    have equal : suggestion = other :=
      eq_of_isLE (chosen.least other least.mem same) (least.least suggestion chosen.mem same.symm)
    rwa [equal]

theorem of_mem_iff (sorted : kept.Pairwise Precedes)
    (chosen : ∀ suggestion, suggestion ∈ kept ↔ Chosen suggestions suggestion) :
    CanonicalForm suggestions kept where
  increasing := sorted.imp And.left
  distinct := sorted.imp And.right
  texts text := by
    simp only [List.mem_map]
    constructor
    · rintro ⟨suggestion, member, rfl⟩
      exact ⟨suggestion, ((chosen suggestion).mp member).mem, rfl⟩
    · rintro ⟨suggestion, member, rfl⟩
      obtain ⟨least, isChosen, same, _⟩ := exists_chosen member
      exact ⟨least, (chosen least).mpr isChosen, same⟩
  least suggestion := (chosen suggestion).mp

theorem unique {others : List Suggestion} (form : CanonicalForm suggestions kept)
    (other : CanonicalForm suggestions others) : kept = others := by
  apply eq_of_mem_iff form.pairwise other.pairwise
  intro suggestion
  rw [form.mem_iff, other.mem_iff]

/-- A text that stands somewhere without a tooltip is kept without one. -/
theorem tooltip_eq_none (form : CanonicalForm suggestions kept) (member : suggestion ∈ kept)
    (among : other ∈ suggestions) (same : other.text = suggestion.text)
    (plain : other.tooltip = none) : suggestion.tooltip = none :=
  tooltip_eq_none_of_isLE same plain ((form.least suggestion member).least other among same)

end CanonicalForm

theorem canonicalForm_canonical (suggestions : List Suggestion) :
    CanonicalForm suggestions (canonical suggestions) :=
  .of_mem_iff (canonical_pairwise suggestions) fun _ => mem_canonical_iff

theorem canonical_eq_iff : canonical suggestions = kept ↔ CanonicalForm suggestions kept := by
  constructor
  · rintro rfl
    exact canonicalForm_canonical suggestions
  · exact (canonicalForm_canonical suggestions).unique

/-- A list in strict order with distinct texts is its own canonical form. -/
theorem canonicalForm_self (sorted : kept.Pairwise Precedes) : CanonicalForm kept kept :=
  .of_mem_iff sorted fun _ => (chosen_iff_mem sorted).symm

end Suggestion

namespace Batch

theorem canonicalForm_merge (batches : List Batch) :
    Suggestion.CanonicalForm (batches.flatMap items) (merge batches).items :=
  .of_mem_iff (merge batches).sorted fun _ => mem_merge_iff

end Batch

namespace Suggestion

/-- Suggestions are put into the only canonical form that they have, by a total order that tells all
of them apart. The batches that are collected, merged or asked for are in this form. -/
theorem canonical_keeps_least :
    (∀ suggestions kept : List Suggestion,
      canonical suggestions = kept ↔ CanonicalForm suggestions kept) ∧
    (∀ suggestions : List Suggestion, ∀ suggestion ∈ canonical suggestions,
      ∀ other ∈ suggestions, other.text = suggestion.text → other.tooltip = none →
        suggestion.tooltip = none) ∧
    (∀ suggestions : List Suggestion,
      canonical (canonical suggestions) = canonical suggestions) ∧
    (∀ left right : Suggestion, left.compare right = .eq ↔ left = right) ∧
    (∀ left right : Suggestion, right.compare left = (left.compare right).swap) ∧
    (∀ left middle right : Suggestion, (left.compare middle).isLE → (middle.compare right).isLE →
      (left.compare right).isLE) ∧
    (∀ (span : Span) (suggestions : List Suggestion),
      CanonicalForm suggestions (Batch.ofList span suggestions).items) ∧
    (∀ suggester : Suggester, CanonicalForm suggester.accepted suggester.batch.items) ∧
    (∀ batches : List Batch,
      CanonicalForm (batches.flatMap Batch.items) (Batch.merge batches).items) ∧
    ∀ batch : Batch, CanonicalForm batch.items batch.items := by
  refine ⟨fun _ _ => canonical_eq_iff, ?_, ?_, ?_, compare_swap, ?_, ?_, ?_,
    Batch.canonicalForm_merge, ?_⟩
  · intro suggestions suggestion member other among
    exact (canonicalForm_canonical suggestions).tooltip_eq_none member among
  · intro suggestions
    exact canonical_eq_iff.mpr (canonicalForm_self (canonical_pairwise suggestions))
  · intro left right
    exact Std.LawfulEqCmp.compare_eq_iff_eq
  · intro left middle right
    exact isLE_trans
  · intro span suggestions
    exact canonicalForm_canonical suggestions
  · intro suggester
    exact canonicalForm_canonical suggester.accepted
  · intro batch
    exact canonicalForm_self batch.sorted

/-- Two texts differ in their case only, and one of them is suggested in three ways. -/
theorem canonical_case_variants :
    let plain : Suggestion := ⟨⟨0, 2, by decide⟩, "bob", none⟩
    let variants : List Suggestion := [⟨⟨0, 2, by decide⟩, "bob", some ""⟩,
      ⟨⟨1, 2, by decide⟩, "bob", none⟩, ⟨⟨3, 4, by decide⟩, "Bob", some "far"⟩, plain]
    canonical variants = [⟨⟨3, 4, by decide⟩, "Bob", some "far"⟩, plain] ∧
      plain ∈ canonical variants ∧
      ∃ other ∈ variants, other.text = plain.text ∧ other.tooltip = none ∧ plain.tooltip = none := by
  intro plain variants
  obtain ⟨form, tooltips, _⟩ := canonical_keeps_least
  have kept : canonical variants = [⟨⟨3, 4, by decide⟩, "Bob", some "far"⟩, plain] := by
    apply (form _ _).mpr
    constructor
    · decide
    · decide
    · simp [variants, plain]
    · have least : ∀ suggestion ∈ [⟨⟨3, 4, by decide⟩, "Bob", some "far"⟩, plain],
          suggestion ∈ variants ∧ ∀ other ∈ variants, other.text = suggestion.text →
            (suggestion.compare other).isLE := by decide
      intro suggestion member
      exact ⟨(least suggestion member).1, (least suggestion member).2⟩
  have member : plain ∈ canonical variants := by
    rw [kept]
    exact List.mem_cons_of_mem _ List.mem_cons_self
  have among : ⟨⟨1, 2, by decide⟩, "bob", none⟩ ∈ variants := by decide
  exact ⟨kept, member, _, among, rfl, rfl, tooltips variants plain member _ among rfl rfl⟩

end Suggestion

end CommandShell
