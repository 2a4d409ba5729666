/-
This file says which commands can be built, without saying how they are checked. Where several rules
are broken, the error tells of the first break: sites come in the order of the tree, and the aliases
behind them.
-/

import CommandShell.Proofs.Labels
import CommandShell.Proofs.Site

namespace CommandShell

open Argument Text

/-! ### Broken rules in a tree -/

def Segment.argumentName? : Segment → Option String
  | .literal _ => none
  | .argument name .. => some name

/-- These are the names of the arguments among nodes. -/
def argumentNames {ω : Type} (nodes : List (Node ω)) : List String :=
  nodes.filterMap fun node => node.segment.argumentName?

namespace Site

variable {ω : Type} {site : Site ω} {error : BuildError} {bound : List String}

/-- This is how the node of a site can break a rule. -/
inductive Breaks (site : Site ω) : BuildError → Prop where
  | invalidLiteral {text : String} (literal : site.node.segment = .literal text)
      (misspelled : ¬ IsLabel text) : Breaks site (.invalidLiteral text)
  | duplicateArgument {name : String} {kind : Kind} {provider : Option Provider}
      (argument : site.node.segment = .argument name kind provider)
      (known : name ∈ argumentNames site.above) : Breaks site (.duplicateArgument name)
  | greedyArgumentHasChildren {name : String} {provider : Option Provider}
      (argument : site.node.segment = .argument name .remainder provider)
      (new : name ∉ argumentNames site.above) (followed : site.node.children ≠ []) :
      Breaks site (.greedyArgumentHasChildren name)

/-- This checks the node of a site, given the names that are bound above the root. -/
def fault? (bound : List String) (site : Site ω) : Option BuildError :=
  site.node.segment.violation? (site.above.foldl (fun bound node => node.segment.bind bound) bound)
    site.node.children.isEmpty

theorem mem_foldl_bind_iff {name : String} {nodes : List (Node ω)} :
    name ∈ nodes.foldl (fun bound node => node.segment.bind bound) bound ↔
      name ∈ argumentNames nodes ∨ name ∈ bound := by
  induction nodes generalizing bound with
  | nil => simp [argumentNames]
  | cons node nodes inductionHypothesis =>
      rw [List.foldl_cons, inductionHypothesis, argumentNames, argumentNames, List.filterMap_cons]
      cases node.segment with
      | literal text => rfl
      | argument other kind provider =>
          simp [Segment.bind, Segment.argumentName?, or_left_comm, or_assoc]

theorem fault?_of_literal {text : String} (literal : site.node.segment = .literal text) :
    site.fault? [] = if isWord text.toList then none else some (.invalidLiteral text) := by
  rw [fault?, literal]
  rfl

theorem fault?_of_argument {name : String} {kind : Kind} {provider : Option Provider}
    (argument : site.node.segment = .argument name kind provider) :
    site.fault? [] =
      if name ∈ argumentNames site.above then some (.duplicateArgument name)
      else if kind = .remainder ∧ site.node.children ≠ [] then
        some (.greedyArgumentHasChildren name)
      else none := by
  have greedy : kind.isGreedy ↔ kind = .remainder := by cases kind <;> simp [Kind.isGreedy]
  rw [fault?, argument]
  simp [Segment.violation?, mem_foldl_bind_iff, greedy]

theorem breaks_of_fault? (fault : site.fault? [] = some error) : site.Breaks error := by
  cases segment : site.node.segment with
  | literal text =>
      rw [fault?_of_literal segment] at fault
      split at fault
      · cases fault
      · rename_i notWord
        cases fault
        exact .invalidLiteral segment (mt isWord_iff_isLabel.mpr notWord)
  | argument name kind provider =>
      rw [fault?_of_argument segment] at fault
      split at fault
      · rename_i known
        cases fault
        exact .duplicateArgument segment known
      · rename_i new
        split at fault
        · rename_i followed
          cases fault
          exact .greedyArgumentHasChildren (followed.1 ▸ segment) new followed.2
        · cases fault

/-- A site is found faulty exactly if it breaks a rule. -/
theorem fault?_eq_some_iff : site.fault? [] = some error ↔ site.Breaks error := by
  refine ⟨breaks_of_fault?, fun breaks => ?_⟩
  cases breaks with
  | invalidLiteral literal misspelled =>
      rw [fault?_of_literal literal, if_neg (mt isWord_iff_isLabel.mp misspelled)]
  | duplicateArgument argument known =>
      rw [fault?_of_argument argument, if_pos known]
  | greedyArgumentHasChildren argument new followed =>
      rw [fault?_of_argument argument, if_neg new, if_pos ⟨rfl, followed⟩]

theorem fault?_eq_none_iff : site.fault? [] = none ↔ ∀ error, ¬ site.Breaks error := by
  rw [Option.eq_none_iff_forall_ne_some]
  exact forall_congr' fun error => not_congr fault?_eq_some_iff

end Site

/-! ### Sites in order -/

/-- In a sorted list the first member with a result is the one that no other precedes. -/
theorem findSome?_eq_some_iff_first {α β : Type} {precedes : α → α → Prop} {list : List α}
    {find : α → Option β} {result : β} (asymmetric : ∀ first second, precedes first second →
      ¬ precedes second first) (sorted : list.Pairwise precedes) :
    list.findSome? find = some result ↔
      ∃ member ∈ list, find member = some result ∧
        ∀ other ∈ list, precedes other member → find other = none := by
  rw [List.findSome?_eq_some_iff]
  constructor
  · rintro ⟨earlier, member, later, rfl, found, nothing⟩
    refine ⟨member, List.mem_append_right _ List.mem_cons_self, found, fun other among first => ?_⟩
    rcases List.mem_append.mp among with before | after
    · exact nothing other before
    · -- No member from the hit on precedes it.
      obtain ⟨_, behind, _⟩ := List.pairwise_append.mp sorted
      rcases List.mem_cons.mp after with rfl | after
      · exact absurd first (asymmetric _ _ first)
      · exact absurd first (asymmetric _ _ (List.rel_of_pairwise_cons behind after))
  · rintro ⟨member, among, found, first⟩
    obtain ⟨earlier, later, rfl⟩ := List.append_of_mem among
    refine ⟨earlier, member, later, rfl, found, fun other before => ?_⟩
    obtain ⟨_, _, across⟩ := List.pairwise_append.mp sorted
    have precedes := across other before member List.mem_cons_self
    exact first other (List.mem_append_left _ before) precedes

theorem Site.Precedes.asymm {ω : Type} {first second : Site ω} (precedes : first.Precedes second) :
    ¬ second.Precedes first :=
  List.not_lt.mpr (List.le_of_lt precedes)

namespace Node

variable {ω : Type}

mutual

theorem violation?_eq (bound : List String) : ∀ node : Node ω,
    node.violation? bound = node.sites.findSome? (Site.fault? bound)
  | .node segment executor requirement children => by
      have own : Site.fault? bound (.root (.node segment executor requirement children)) =
          segment.violation? bound children.isEmpty := rfl
      have among : violationAmong? (segment.bind bound) children = _ :=
        violationAmong?_eq bound (.node segment executor requirement children) 0 children
      rw [violation?, among, sites, List.findSome?_cons, own]
      cases segment.violation? bound children.isEmpty <;> rfl

theorem violationAmong?_eq (bound : List String) (parent : Node ω) (number : Nat) :
    ∀ children : List (Node ω), violationAmong? (parent.segment.bind bound) children =
      (sitesAmong parent number children).findSome? (Site.fault? bound)
  | [] => rfl
  | child :: rest => by
      rw [violationAmong?, violation?_eq _ child, violationAmong?_eq bound parent (number + 1) rest,
        sitesAmong, List.findSome?_append, List.findSome?_map]
      rfl

end

variable {root : Node ω} {error : BuildError}

theorem violation?_eq_none_iff :
    root.violation? [] = none ↔ ∀ site, root.HasSite site → ∀ error, ¬ site.Breaks error := by
  rw [violation?_eq, List.findSome?_eq_none_iff]
  simp only [mem_sites_iff, Site.fault?_eq_none_iff]

/-- The fault of a tree is the first break of a rule. -/
theorem violation?_eq_some_iff :
    root.violation? [] = some error ↔ ∃ site, root.HasSite site ∧ site.Breaks error ∧
      ∀ other, root.HasSite other → other.Precedes site → ∀ error, ¬ other.Breaks error := by
  rw [violation?_eq, findSome?_eq_some_iff_first (fun _ _ => Site.Precedes.asymm)
    root.sites_pairwise]
  simp only [mem_sites_iff, Site.fault?_eq_some_iff, Site.fault?_eq_none_iff]

end Node

/-! ### Names on one way -/

section

variable {ω : Type} {root node : Node ω} {site : Site ω} {bound : List String}

theorem argumentNames_cons (node : Node ω) (nodes : List (Node ω)) :
    argumentNames (node :: nodes) = node.segment.argumentName?.toList ++ argumentNames nodes := by
  rw [argumentNames, argumentNames, List.filterMap_cons]
  cases node.segment.argumentName? <;> rfl

theorem Site.argumentNames_path (site : Site ω) :
    argumentNames site.path =
      argumentNames site.above ++ site.node.segment.argumentName?.toList := by
  rw [argumentNames, path, List.filterMap_append]
  exact congrArg (_ ++ ·) ((argumentNames_cons site.node []).trans (List.append_nil _))

theorem nodup_append_toList {name? : Option String} (distinct : bound.Nodup)
    (fresh : ∀ name, name? = some name → name ∉ bound) : (bound ++ name?.toList).Nodup := by
  cases name? with
  | none => simpa using distinct
  | some name =>
      refine List.nodup_append.mpr ⟨distinct, by simp, fun other member last among same => ?_⟩
      obtain rfl := List.mem_singleton.mp among
      exact fresh last rfl (same ▸ member)

/-- If no argument repeats a name above it, the names on each way are distinct. The names that are
bound above the root are those of the way up to it, which grow with each step of the induction. -/
theorem Node.HasSite.nodup_argumentNames (hasSite : root.HasSite site) (distinct : bound.Nodup)
    (fresh : ∀ other, root.HasSite other → ∀ name, other.node.segment.argumentName? = some name →
      name ∉ bound ++ argumentNames other.above) :
    (bound ++ argumentNames site.path).Nodup := by
  induction hasSite generalizing bound with
  | root node =>
      rw [Site.argumentNames_path]
      refine nodup_append_toList distinct fun name same => ?_
      simpa [Site.root, argumentNames] using fresh _ (.root node) name same
  | @child parent child number site entered inside inductionHypothesis =>
      rw [Site.path_below, argumentNames_cons, ← List.append_assoc]
      refine inductionHypothesis (nodup_append_toList distinct fun name same => ?_) ?_
      · simpa [Site.root, argumentNames] using fresh _ (.root parent) name same
      · intro other otherInside name same
        have new := fresh _ (.child entered otherInside) name same
        rwa [Site.below, argumentNames_cons, ← List.append_assoc] at new

/-- An argument repeats no name above it if the names on its way are distinct. -/
theorem Site.notMem_argumentNames {name : String} (distinct : (argumentNames site.path).Nodup)
    (named : site.node.segment.argumentName? = some name) : name ∉ argumentNames site.above := by
  intro member
  rw [argumentNames_path, named] at distinct
  obtain ⟨_, _, apart⟩ := List.nodup_append.mp distinct
  exact apart name member name (List.mem_singleton_self name) rfl

end

/-! ### Well-formed commands -/

/-- These are the rules for trees. -/
structure Node.WellFormed {ω : Type} (root : Node ω) : Prop where
  literals : ∀ site, root.HasSite site → ∀ text, site.node.segment = .literal text → IsLabel text
  greedy : ∀ site, root.HasSite site → ∀ name provider,
    site.node.segment = .argument name .remainder provider → site.node.children = []
  arguments : ∀ site, root.HasSite site → (argumentNames site.path).Nodup

/-- These are the rules for commands. -/
structure Draft.WellFormed {ω : Type} (draft : Draft ω) : Prop where
  tree : draft.root.WellFormed
  aliases : ∀ label ∈ draft.heading.aliases, IsLabel label
  labels : draft.labels.Nodup

namespace Node

variable {ω : Type} {root : Node ω}

/-- An argument that is no duplicate has a name that is not bound above it. -/
theorem notMem_argumentNames_of_sound {site : Site ω} {name : String}
    (sound : ∀ error, ¬ site.Breaks error)
    (named : site.node.segment.argumentName? = some name) : name ∉ argumentNames site.above := by
  intro known
  cases segment : site.node.segment with
  | literal text => simp [segment, Segment.argumentName?] at named
  | argument other kind provider =>
      obtain rfl : other = name := by simpa [segment, Segment.argumentName?] using named
      exact sound _ (.duplicateArgument segment known)

theorem wellFormed_of_sound
    (sound : ∀ site, root.HasSite site → ∀ error, ¬ site.Breaks error) : root.WellFormed where
  literals site hasSite text literal := Decidable.of_not_not fun misspelled =>
    sound site hasSite _ (.invalidLiteral literal misspelled)
  greedy site hasSite name provider argument := by
    have named : site.node.segment.argumentName? = some name := by
      rw [argument]
      rfl
    have new := notMem_argumentNames_of_sound (sound site hasSite) named
    exact Decidable.of_not_not fun followed =>
      sound site hasSite _ (.greedyArgumentHasChildren argument new followed)
  arguments site hasSite := by
    have new (other : Site ω) (otherSite : root.HasSite other) (name : String)
        (named : other.node.segment.argumentName? = some name) :
        name ∉ [] ++ argumentNames other.above :=
      notMem_argumentNames_of_sound (sound other otherSite) named
    exact hasSite.nodup_argumentNames .nil new

/-- A tree is well-formed exactly if its check finds nothing. -/
theorem wellFormed_iff : root.WellFormed ↔ root.violation? [] = none := by
  rw [violation?_eq_none_iff]
  refine ⟨fun wellFormed site hasSite error breaks => ?_, wellFormed_of_sound⟩
  obtain ⟨literals, greedy, arguments⟩ := wellFormed
  cases breaks with
  | invalidLiteral literal misspelled => exact misspelled (literals site hasSite _ literal)
  | duplicateArgument argument known =>
      refine Site.notMem_argumentNames (arguments site hasSite) ?_ known
      rw [argument]
      rfl
  | greedyArgumentHasChildren argument _ followed =>
      exact followed (greedy site hasSite _ _ argument)

end Node

namespace Draft

variable {ω : Type} {draft : Draft ω} {error : BuildError}

theorem wellFormed_iff : draft.WellFormed ↔ draft.violation? = none := by
  rw [violation?, Option.or_eq_none_iff, ← Node.wellFormed_iff, labelViolation?_eq_none_iff,
    ← nodup_labels_iff]
  constructor
  · rintro ⟨tree, aliases, labels⟩
    exact ⟨tree, aliases, labels⟩
  · rintro ⟨tree, aliases, labels⟩
    exact ⟨tree, aliases, labels⟩

/-! ### First breaks -/

/-- This is the first break of a rule: the sites come in their order, and the aliases behind all of
them. -/
inductive FirstBreaks (draft : Draft ω) : BuildError → Prop where
  | tree {site : Site ω} {error : BuildError} (hasSite : draft.root.HasSite site)
      (breaks : site.Breaks error) (first : ∀ other, draft.root.HasSite other →
        other.Precedes site → ∀ error, ¬ other.Breaks error) : FirstBreaks draft error
  | alias {number : Nat} {error : BuildError}
      (sound : ∀ site, draft.root.HasSite site → ∀ error, ¬ site.Breaks error)
      (breaks : LabelBreaks [draft.name] draft.heading.aliases number error)
      (first : ∀ earlier < number, ∀ error,
        ¬ LabelBreaks [draft.name] draft.heading.aliases earlier error) : FirstBreaks draft error

theorem violation?_eq_some_iff : draft.violation? = some error ↔ draft.FirstBreaks error := by
  rw [violation?, Option.or_eq_some_iff, Node.violation?_eq_some_iff, Node.violation?_eq_none_iff,
    labelViolation?_eq_some_iff]
  constructor
  · rintro (⟨site, hasSite, breaks, first⟩ | ⟨sound, number, breaks, first⟩)
    · exact .tree hasSite breaks first
    · exact .alias sound breaks first
  · rintro (⟨hasSite, breaks, first⟩ | ⟨sound, breaks, first⟩)
    · exact .inl ⟨_, hasSite, breaks, first⟩
    · exact .inr ⟨sound, _, breaks, first⟩

/-! ### Building -/

/-- The tree is built as it is, or has the fault that building it has met. -/
theorem build_cases (draft : Draft ω) :
    (∃ command, draft.violation? = none ∧ draft.build = .ok command ∧ command.toDraft = draft) ∨
      ∃ error, draft.violation? = some error ∧ draft.build = .error error := by
  unfold build
  split
  · rename_i error path built
    rw [Node.build_eq] at built
    cases verdict : draft.root.violation? [] with
    | none =>
        rw [verdict] at built
        cases built
    | some fault =>
        rw [verdict] at built
        cases built
        exact .inr ⟨error, by rw [violation?, verdict, Option.some_or], rfl⟩
  · rename_i root path built
    obtain ⟨sound, rfl⟩ := root_of_build built
    have rest : draft.violation? = labelViolation? [draft.name] draft.heading.aliases := by
      rw [violation?, sound, Option.none_or]
    split
    · rename_i error labelled
      exact .inr ⟨error, rest.trans labelled, rfl⟩
    · rename_i labelled
      exact .inl ⟨_, rest.trans labelled, rfl, rfl⟩

/-- Exactly the well-formed commands are built, and they are built as they are. Otherwise the error
tells of the first break of a rule. -/
theorem build_iff_wellFormed (draft : Draft ω) :
    ((∃ command, draft.build = .ok command) ↔ draft.WellFormed) ∧
      (∀ command, draft.build = .ok command → command.toDraft = draft) ∧
      ∀ error, draft.build = .error error ↔ draft.FirstBreaks error := by
  simp only [← violation?_eq_some_iff, wellFormed_iff]
  rcases draft.build_cases with ⟨command, sound, built, same⟩ | ⟨error, faulty, refused⟩
  · refine ⟨iff_of_true ⟨command, built⟩ sound, fun other builds => ?_, fun error => ?_⟩
    · rw [built] at builds
      cases builds
      exact same
    · simp [built, sound]
  · refine ⟨iff_of_false ?_ ?_, fun other builds => ?_, fun error => ?_⟩
    · rintro ⟨command, built⟩
      rw [refused] at built
      cases built
    · rw [faulty]
      exact fun sound => nomatch sound
    · rw [refused] at builds
      cases builds
    · simp [refused, faulty]

end Draft

end CommandShell
