/-
This file says which suggestions a batch keeps: of those with the same text the least one, in order.
Merging therefore depends neither on the order of the batches nor on how they are grouped.
-/

import CommandShell.Suggestion.Batch

namespace CommandShell

/-! ### Spans that cover others -/

namespace Span

def Covers (span other : Span) : Prop :=
  span.start ≤ other.start ∧ other.stop ≤ span.stop

/-- This is the smallest span that covers all spans of a list. -/
structure IsCover (span : Span) (spans : List Span) : Prop where
  covers : ∀ other ∈ spans, span.Covers other
  least : ∀ wider : Span, (∀ other ∈ spans, wider.Covers other) → wider.Covers span

theorem Covers.refl (span : Span) : span.Covers span :=
  ⟨Nat.le_refl _, Nat.le_refl _⟩

theorem Covers.trans {first second third : Span} (outer : first.Covers second)
    (inner : second.Covers third) : first.Covers third :=
  ⟨Nat.le_trans outer.1 inner.1, Nat.le_trans inner.2 outer.2⟩

theorem Covers.antisymm {first second : Span} (covers : first.Covers second)
    (covered : second.Covers first) : first = second :=
  Span.ext (Nat.le_antisymm covers.1 covered.1) (Nat.le_antisymm covered.2 covers.2)

theorem covers_cover_iff {wider left right : Span} :
    wider.Covers (left.cover right) ↔ wider.Covers left ∧ wider.Covers right := by
  simp only [Covers, cover, Nat.le_min, Nat.max_le]
  exact and_and_and_comm

theorem covers_foldl_iff {wider first : Span} {rest : List Span} :
    wider.Covers (rest.foldl cover first) ↔ ∀ span ∈ first :: rest, wider.Covers span := by
  induction rest generalizing first with
  | nil => simp
  | cons second rest inductionHypothesis =>
      rw [List.foldl_cons, inductionHypothesis]
      simp [covers_cover_iff, and_assoc]

theorem isCover_foldl (first : Span) (rest : List Span) :
    (rest.foldl cover first).IsCover (first :: rest) where
  covers := covers_foldl_iff.mp (Covers.refl _)
  least _ covers := covers_foldl_iff.mpr covers

theorem isCover_of_same {span first : Span} {rest : List Span}
    (same : ∀ other ∈ first :: rest, other = span) : span.IsCover (first :: rest) where
  covers other member := same other member ▸ Covers.refl other
  least _ covers := same first List.mem_cons_self ▸ covers first List.mem_cons_self

namespace IsCover

variable {span other : Span} {spans others : List Span}

theorem unique (first : span.IsCover spans) (second : other.IsCover spans) : span = other :=
  Covers.antisymm (second.least span first.covers) (first.least other second.covers)

/-- Lists that the same spans cover have the same smallest one. -/
theorem congr (isCover : span.IsCover spans)
    (same : ∀ wider : Span,
      (∀ other ∈ spans, wider.Covers other) ↔ ∀ other ∈ others, wider.Covers other) :
    span.IsCover others where
  covers := (same span).mp isCover.covers
  least wider covers := isCover.least wider ((same wider).mpr covers)

end IsCover

end Span

/-! ### Suggestions that are kept -/

namespace Suggestion

variable {suggestion other : Suggestion} {suggestions others : List Suggestion}

/-- Of the suggestions with one text the least is chosen. -/
structure Chosen (suggestions : List Suggestion) (suggestion : Suggestion) : Prop where
  mem : suggestion ∈ suggestions
  least : ∀ other ∈ suggestions, other.text = suggestion.text → (suggestion.compare other).isLE

theorem isLE_refl (suggestion : Suggestion) : (suggestion.compare suggestion).isLE := by
  have same : suggestion.compare suggestion = .eq := Std.ReflCmp.compare_self
  rw [same]
  rfl

theorem eq_of_isLE (below : (suggestion.compare other).isLE)
    (above : (other.compare suggestion).isLE) : suggestion = other :=
  eq_of_compare (Std.OrientedCmp.isLE_antisymm below above)

theorem mem_keepFirst_cons : suggestion ∈ keepFirst (other :: others) ↔
    suggestion = other ∨ suggestion ∈ keepFirst others ∧ suggestion.text ≠ other.text := by
  rw [keepFirst, List.mem_cons, List.mem_filter, decide_eq_true_eq]

/-- The first suggestion of a text in a sorted list is the least one. -/
theorem mem_keepFirst_iff
    (sorted : suggestions.Pairwise fun left right => (left.compare right).isLE = true) :
    suggestion ∈ keepFirst suggestions ↔ Chosen suggestions suggestion := by
  induction suggestions with
  | nil => exact ⟨fun member => (nomatch member), fun chosen => nomatch chosen.mem⟩
  | cons first rest inductionHypothesis =>
      obtain ⟨below, restSorted⟩ := List.pairwise_cons.mp sorted
      rw [mem_keepFirst_cons, inductionHypothesis restSorted]
      constructor
      · rintro (rfl | ⟨chosen, distinct⟩)
        · exact ⟨List.mem_cons_self,
            List.forall_mem_cons.mpr
              ⟨fun _ => isLE_refl _, fun other member _ => below other member⟩⟩
        · exact ⟨List.mem_cons_of_mem _ chosen.mem,
            List.forall_mem_cons.mpr ⟨fun same => absurd same.symm distinct, chosen.least⟩⟩
      · rintro ⟨member, least⟩
        obtain ⟨leastFirst, leastRest⟩ := List.forall_mem_cons.mp least
        rcases List.mem_cons.mp member with rfl | later
        · exact .inl rfl
        by_cases same : suggestion.text = first.text
        · exact .inl (eq_of_isLE (leastFirst same.symm) (below suggestion later))
        · exact .inr ⟨⟨later, leastRest⟩, same⟩

theorem chosen_congr (same : ∀ other, other ∈ suggestions ↔ other ∈ others) :
    Chosen suggestions suggestion ↔ Chosen others suggestion := by
  constructor
  · rintro ⟨member, least⟩
    exact ⟨(same _).mp member, fun other among => least other ((same other).mpr among)⟩
  · rintro ⟨member, least⟩
    exact ⟨(same _).mpr member, fun other among => least other ((same other).mp among)⟩

theorem mem_canonical_iff : suggestion ∈ canonical suggestions ↔ Chosen suggestions suggestion := by
  rw [canonical, mem_keepFirst_iff (mergeSort_pairwise_isLE suggestions)]
  exact chosen_congr fun _ => List.mem_mergeSort

theorem exists_mem_keepFirst (member : suggestion ∈ suggestions) :
    ∃ kept ∈ keepFirst suggestions, kept.text = suggestion.text := by
  induction suggestions with
  | nil => cases member
  | cons first rest inductionHypothesis =>
      by_cases same : first.text = suggestion.text
      · exact ⟨first, mem_keepFirst_cons.mpr (.inl rfl), same⟩
      rcases List.mem_cons.mp member with rfl | later
      · exact absurd rfl same
      obtain ⟨kept, among, text⟩ := inductionHypothesis later
      have distinct : kept.text ≠ first.text := fun equal => same (equal.symm.trans text)
      exact ⟨kept, mem_keepFirst_cons.mpr (.inr ⟨among, distinct⟩), text⟩

/-- Each text keeps a suggestion, and this is at most any other of the text. -/
theorem exists_chosen (member : suggestion ∈ suggestions) :
    ∃ chosen, Chosen suggestions chosen ∧ chosen.text = suggestion.text ∧
      (chosen.compare suggestion).isLE := by
  obtain ⟨kept, among, text⟩ := exists_mem_keepFirst (List.mem_mergeSort.mpr member)
  have chosen : Chosen suggestions kept := mem_canonical_iff.mp among
  exact ⟨kept, chosen, text, chosen.least suggestion member text.symm⟩

theorem canonical_eq_nil_iff : canonical suggestions = [] ↔ suggestions = [] := by
  constructor
  · intro nothing
    refine List.eq_nil_iff_forall_not_mem.mpr fun suggestion member => ?_
    obtain ⟨chosen, isChosen, _⟩ := exists_chosen member
    have kept := mem_canonical_iff.mpr isChosen
    rw [nothing] at kept
    cases kept
  · rintro rfl
    rw [canonical, List.mergeSort_nil, keepFirst]

theorem Precedes.isLE (precedes : suggestion.Precedes other) : (suggestion.compare other).isLE := by
  rw [precedes.1]
  rfl

theorem keepFirst_of_distinct
    (distinct : suggestions.Pairwise fun left right => left.text ≠ right.text) :
    keepFirst suggestions = suggestions := by
  induction suggestions with
  | nil => rfl
  | cons first rest inductionHypothesis =>
      obtain ⟨others, restDistinct⟩ := List.pairwise_cons.mp distinct
      rw [keepFirst, inductionHypothesis restDistinct, List.filter_eq_self.mpr]
      intro other member
      exact decide_eq_true (others other member).symm

/-- All suggestions of a batch are chosen, as no two of them have the same text. -/
theorem chosen_iff_mem (sorted : suggestions.Pairwise Precedes) :
    Chosen suggestions suggestion ↔ suggestion ∈ suggestions := by
  rw [← mem_keepFirst_iff (sorted.imp Precedes.isLE),
    keepFirst_of_distinct (sorted.imp And.right)]

/-- Two sorted lists with the same suggestions are equal. -/
theorem eq_of_mem_iff (sorted : suggestions.Pairwise Precedes)
    (otherSorted : others.Pairwise Precedes)
    (same : ∀ suggestion, suggestion ∈ suggestions ↔ suggestion ∈ others) :
    suggestions = others := by
  have distinct : ∀ left right : Suggestion, left.Precedes right → left ≠ right :=
    fun left right precedes equal => precedes.2 (congrArg text equal)
  have permuted : suggestions.Perm others :=
    (List.perm_ext_iff_of_nodup (sorted.imp (distinct _ _))
      (otherSorted.imp (distinct _ _))).mpr same
  refine permuted.eq_of_pairwise ?_ sorted otherSorted
  intro left right _ _ before behind
  exact eq_of_isLE before.isLE behind.isLE

end Suggestion

/-! ### Merging -/

namespace Batch

variable {batch other : Batch} {batches others : List Batch}

/-- A batch joins others if it covers them and keeps the chosen ones of all their suggestions. -/
structure Joins (batch : Batch) (batches : List Batch) : Prop where
  mem_iff : ∀ suggestion,
    suggestion ∈ batch.items ↔ Suggestion.Chosen (batches.flatMap items) suggestion
  isCover : batch.span.IsCover (batches.map span)

theorem Joins.unique (first : batch.Joins batches) (second : other.Joins batches) :
    batch = other := by
  have sameItems : batch.items = other.items :=
    Suggestion.eq_of_mem_iff batch.sorted other.sorted fun suggestion =>
      (first.mem_iff suggestion).trans (second.mem_iff suggestion).symm
  exact Batch.ext (first.isCover.unique second.isCover) sameItems

theorem joins_merge (nonempty : batches ≠ []) : (merge batches).Joins batches := by
  match batches with
  | [batch] =>
      refine ⟨fun suggestion => ?_, ?_⟩
      · rw [List.flatMap_singleton, Suggestion.chosen_iff_mem batch.sorted]
        rfl
      · exact Span.isCover_foldl batch.span []
  | first :: second :: rest =>
      refine ⟨fun suggestion => Suggestion.mem_canonical_iff, ?_⟩
      exact Span.isCover_foldl first.span ((second :: rest).map span)

theorem Joins.eq_merge (joins : batch.Joins batches) (nonempty : batches ≠ []) :
    merge batches = batch :=
  (joins_merge nonempty).unique joins

/-- Only the members of a list of batches matter. -/
theorem Joins.congr (joins : batch.Joins batches)
    (same : ∀ other, other ∈ batches ↔ other ∈ others) : batch.Joins others where
  mem_iff suggestion := by
    rw [joins.mem_iff]
    exact Suggestion.chosen_congr fun other => by simp only [List.mem_flatMap, same]
  isCover := joins.isCover.congr fun wider => by simp only [List.forall_mem_map, same]

section Groups

variable {groups : List (List Batch)} (nonempty : ∀ group ∈ groups, group ≠ [])

include nonempty

/-- Of the chosen suggestions of some groups the same are chosen as of all their suggestions. -/
theorem chosen_merge_iff {suggestion : Suggestion} :
    Suggestion.Chosen ((groups.map merge).flatMap items) suggestion ↔
      Suggestion.Chosen (groups.flatten.flatMap items) suggestion := by
  have merged : ∀ other, other ∈ (groups.map merge).flatMap items ↔
      ∃ group ∈ groups, Suggestion.Chosen (group.flatMap items) other := by
    intro other
    rw [List.flatMap_map, List.mem_flatMap]
    refine exists_congr fun group => and_congr_right fun member => ?_
    exact (joins_merge (nonempty group member)).mem_iff other
  have flat : ∀ other, other ∈ groups.flatten.flatMap items ↔
      ∃ group ∈ groups, other ∈ group.flatMap items := by
    intro other
    rw [← List.flatMap_id, List.flatMap_assoc, List.mem_flatMap]
    rfl
  constructor
  · rintro ⟨member, least⟩
    obtain ⟨group, among, chosen⟩ := (merged suggestion).mp member
    refine ⟨(flat suggestion).mpr ⟨group, among, chosen.mem⟩, ?_⟩
    intro other otherMember same
    obtain ⟨otherGroup, otherAmong, inside⟩ := (flat other).mp otherMember
    obtain ⟨found, foundChosen, foundText, below⟩ := Suggestion.exists_chosen inside
    have foundMember := (merged found).mpr ⟨otherGroup, otherAmong, foundChosen⟩
    exact Std.TransCmp.isLE_trans (least found foundMember (foundText.trans same)) below
  · rintro ⟨member, least⟩
    obtain ⟨group, among, inside⟩ := (flat suggestion).mp member
    have chosen : Suggestion.Chosen (group.flatMap items) suggestion :=
      ⟨inside, fun other otherInside => least other ((flat other).mpr ⟨group, among, otherInside⟩)⟩
    refine ⟨(merged suggestion).mpr ⟨group, among, chosen⟩, ?_⟩
    intro other otherMember same
    obtain ⟨otherGroup, otherAmong, otherChosen⟩ := (merged other).mp otherMember
    exact least other ((flat other).mpr ⟨otherGroup, otherAmong, otherChosen.mem⟩) same

theorem covers_merge_iff (wider : Span) :
    (∀ other ∈ (groups.map merge).map span, wider.Covers other) ↔
      ∀ other ∈ groups.flatten.map span, wider.Covers other := by
  simp only [List.forall_mem_map, List.mem_flatten]
  constructor
  · rintro covers batch ⟨group, among, inside⟩
    have isCover := (joins_merge (nonempty group among)).isCover
    exact (covers group among).trans (isCover.covers _ (List.mem_map_of_mem inside))
  · intro covers group among
    have isCover := (joins_merge (nonempty group among)).isCover
    refine isCover.least wider (List.forall_mem_map.mpr fun batch inside => ?_)
    exact covers batch ⟨group, among, inside⟩

/-- A batch that joins the merged groups joins all their batches. -/
theorem Joins.flatten (joins : batch.Joins (groups.map merge)) : batch.Joins groups.flatten where
  mem_iff suggestion := (joins.mem_iff suggestion).trans (chosen_merge_iff nonempty)
  isCover := joins.isCover.congr (covers_merge_iff nonempty)

end Groups

theorem merge_perm (permuted : batches.Perm others) : merge batches = merge others := by
  by_cases nonempty : others = []
  · subst nonempty
    rw [permuted.eq_nil]
  · have joins := (joins_merge nonempty).congr fun _ => permuted.mem_iff.symm
    exact joins.eq_merge fun nothing => nonempty (nothing ▸ permuted).nil_eq.symm

theorem merge_flatten {groups : List (List Batch)} (nonempty : ∀ group ∈ groups, group ≠ []) :
    merge (groups.map merge) = merge groups.flatten := by
  cases groups with
  | nil => rfl
  | cons group rest =>
      have joins := (joins_merge (List.cons_ne_nil (merge group) (rest.map merge))).flatten nonempty
      refine (joins.eq_merge ?_).symm
      have first := nonempty group List.mem_cons_self
      simp [first]

theorem merge_self (batch : Batch) : merge [batch, batch] = batch := by
  have alone : batch.Joins [batch] := joins_merge (List.cons_ne_nil batch [])
  exact (alone.congr fun other => by simp).eq_merge (List.cons_ne_nil _ _)

/-- Merging does not depend on the order or the grouping of the batches. The merged batch reaches no
further than they do, and a batch merged with itself is left as it is. -/
theorem merge_independent :
    (∀ batches others : List Batch, batches.Perm others → merge batches = merge others) ∧
    (∀ groups : List (List Batch), (∀ group ∈ groups, group ≠ []) →
      merge (groups.map merge) = merge groups.flatten) ∧
    (∀ batches : List Batch, 2 ≤ batches.length →
      (merge batches).span.IsCover (batches.map span)) ∧
    ∀ batch : Batch, merge [batch, batch] = batch := by
  refine ⟨fun _ _ => merge_perm, fun _ => merge_flatten, ?_, merge_self⟩
  intro batches several
  have nonempty : batches ≠ [] := List.ne_nil_of_length_pos (by omega)
  exact (joins_merge nonempty).isCover

/-- Both batches suggest one of the texts, with other tooltips and spans. -/
theorem merge_overlapping :
    let near : Batch := .ofList ⟨2, 4, by decide⟩ [⟨⟨2, 4, by decide⟩, "bob", none⟩,
      ⟨⟨2, 4, by decide⟩, "Alex", some "here"⟩]
    let far : Batch := .ofList ⟨3, 5, by decide⟩ [⟨⟨3, 5, by decide⟩, "Alex", none⟩,
      ⟨⟨3, 5, by decide⟩, "Bob", none⟩]
    [near, far].Perm [far, near] ∧ merge [near, far] = merge [far, near] ∧
      (∀ group ∈ [[near], [far, near]], group ≠ []) ∧
      merge [merge [near], merge [far, near]] = merge [near, far, near] ∧
      2 ≤ [near, far].length ∧ (merge [near, far]).span.IsCover [near.span, far.span] ∧
      (merge [near, far]).span = ⟨2, 5, by decide⟩ ∧ merge [far, far] = far := by
  intro near far
  obtain ⟨order, groups, cover, same⟩ := merge_independent
  have swapped : [near, far].Perm [far, near] := .swap far near []
  have nonempty : ∀ group ∈ [[near], [far, near]], group ≠ [] := by simp
  have several : 2 ≤ [near, far].length := by decide
  exact ⟨swapped, order _ _ swapped, nonempty, groups _ nonempty, several, cover _ several, rfl,
    same far⟩

end Batch

end CommandShell
