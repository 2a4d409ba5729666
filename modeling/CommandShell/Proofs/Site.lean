/-
This file says where the nodes of a tree stand. The address of a node holds the numbers of the
children that lead to it, so that the order of addresses is the order in which a tree is read: each
node before its children, and all below one child before the next child.
-/

import CommandShell.Proofs.Walk

namespace CommandShell

/-- This is a node of a tree with the way to it: the nodes above it from the root on, and the number
of the child that is entered at each of them. -/
structure Site (ω : Type) where
  address : List Nat
  above : List (Node ω)
  node : Node ω

namespace Site

variable {ω : Type}

/-- These are the nodes from the root to the node itself. -/
def path (site : Site ω) : List (Node ω) :=
  site.above ++ [site.node]

/-- These are the nodes behind the root up to the node itself. -/
def entered (site : Site ω) : List (Node ω) :=
  site.path.tail

def root (node : Node ω) : Site ω :=
  ⟨[], [], node⟩

/-- This is a site in a child, seen from the parent. -/
def below (parent : Node ω) (number : Nat) (site : Site ω) : Site ω :=
  ⟨number :: site.address, parent :: site.above, site.node⟩

@[simp]
theorem path_below (parent : Node ω) (number : Nat) (site : Site ω) :
    (site.below parent number).path = parent :: site.path := rfl

@[simp]
theorem entered_below (parent : Node ω) (number : Nat) (site : Site ω) :
    (site.below parent number).entered = site.path := rfl

/-- Of two sites the one with the smaller address comes first. -/
def Precedes (first second : Site ω) : Prop :=
  first.address < second.address

end Site

namespace Node

variable {ω : Type}

/-- These are the sites of a tree. -/
inductive HasSite : Node ω → Site ω → Prop where
  | root (node : Node ω) : HasSite node (.root node)
  | child {parent child : Node ω} {number : Nat} {site : Site ω}
      (entered : parent.children[number]? = some child) (inside : HasSite child site) :
      HasSite parent (site.below parent number)

mutual

/-- This lists the sites of a tree in their order. -/
def sites : Node ω → List (Site ω)
  | .node segment executor requirement children =>
      let parent := Node.node segment executor requirement children
      .root parent :: sitesAmong parent 0 children

/-- The children are numbered from the given number on. -/
def sitesAmong (parent : Node ω) (number : Nat) : List (Node ω) → List (Site ω)
  | [] => []
  | child :: rest =>
      child.sites.map (Site.below parent number) ++ sitesAmong parent (number + 1) rest

end

variable {root node child parent : Node ω} {number : Nat} {children : List (Node ω)}
  {site other : Site ω}

theorem sites_eq (node : Node ω) :
    node.sites = .root node :: sitesAmong node 0 node.children := by
  cases node
  rfl

theorem mem_sitesAmong_iff :
    site ∈ sitesAmong parent number children ↔
      ∃ index, ∃ child : Node ω, ∃ inner, children[index]? = some child ∧ inner ∈ child.sites ∧
        site = inner.below parent (number + index) := by
  induction children generalizing number with
  | nil => simp [sitesAmong]
  | cons first rest inductionHypothesis =>
      rw [sitesAmong, List.mem_append, List.mem_map, inductionHypothesis]
      constructor
      · rintro (⟨inner, member, rfl⟩ | ⟨index, child, inner, entered, member, rfl⟩)
        · exact ⟨0, first, inner, rfl, member, rfl⟩
        · exact ⟨index + 1, child, inner, entered, member, by rw [Nat.add_right_comm]; rfl⟩
      · rintro ⟨index, child, inner, entered, member, rfl⟩
        cases index with
        | zero =>
            obtain rfl := Option.some.inj entered
            exact .inl ⟨inner, member, rfl⟩
        | succ index =>
            exact .inr ⟨index, child, inner, entered, member, by rw [Nat.add_right_comm]; rfl⟩

theorem hasSite_of_mem_sites {root : Node ω} {site : Site ω} (member : site ∈ root.sites) :
    root.HasSite site := by
  rw [sites_eq] at member
  rcases List.mem_cons.mp member with rfl | among
  · exact .root root
  · obtain ⟨index, child, inner, entered, inside, rfl⟩ := mem_sitesAmong_iff.mp among
    have smaller := sizeOf_lt_of_mem_children (List.mem_of_getElem? entered)
    rw [Nat.zero_add]
    exact .child entered (hasSite_of_mem_sites inside)
termination_by sizeOf root

/-- The list has all sites of a tree. -/
theorem mem_sites_iff : site ∈ root.sites ↔ root.HasSite site := by
  refine ⟨hasSite_of_mem_sites, fun hasSite => ?_⟩
  induction hasSite with
  | root node =>
      rw [sites_eq]
      exact List.mem_cons_self
  | @child parent child number site entered _ inductionHypothesis =>
      rw [sites_eq]
      refine List.mem_cons_of_mem _ (mem_sitesAmong_iff.mpr ?_)
      exact ⟨number, child, site, entered, inductionHypothesis, by rw [Nat.zero_add]⟩

theorem sitesAmong_pairwise (sorted : ∀ child ∈ children, child.sites.Pairwise Site.Precedes) :
    (sitesAmong parent number children).Pairwise Site.Precedes := by
  induction children generalizing number with
  | nil => exact .nil
  | cons child rest inductionHypothesis =>
      obtain ⟨first, later⟩ := List.forall_mem_cons.mp sorted
      rw [sitesAmong, List.pairwise_append, List.pairwise_map]
      refine ⟨first.imp fun precedes => ?_, inductionHypothesis later, ?_⟩
      · exact List.cons_lt_cons_iff.mpr (.inr ⟨rfl, precedes⟩)
      · intro site member other among
        obtain ⟨inner, _, rfl⟩ := List.mem_map.mp member
        obtain ⟨index, child, otherInner, _, _, rfl⟩ := mem_sitesAmong_iff.mp among
        -- The addresses differ at once, as the later child has a greater number.
        exact List.cons_lt_cons_iff.mpr (.inl (by omega))

/-- The list is in order. -/
theorem sites_pairwise (root : Node ω) : root.sites.Pairwise Site.Precedes := by
  rw [sites_eq, List.pairwise_cons]
  constructor
  · intro site member
    obtain ⟨index, child, inner, _, _, rfl⟩ := mem_sitesAmong_iff.mp member
    exact List.nil_lt_cons _ _
  · refine sitesAmong_pairwise fun child member => ?_
    have smaller := sizeOf_lt_of_mem_children member
    exact child.sites_pairwise
termination_by sizeOf root

namespace HasSite

/-- The way to a site starts at the root. -/
theorem path_eq (hasSite : root.HasSite site) : site.path = root :: site.entered := by
  cases hasSite <;> rfl

/-- What holds throughout a tree holds on the way to each of its sites. -/
theorem forall_mem_path {holds : Node ω → Prop} (hasSite : root.HasSite site)
    (throughout : root.Throughout holds) : ∀ node ∈ site.path, holds node := by
  induction hasSite with
  | root node => exact List.forall_mem_singleton.mpr throughout.own
  | child entered _ inductionHypothesis =>
      have below := throughout.of_mem_children (List.mem_of_getElem? entered)
      exact List.forall_mem_cons.mpr ⟨throughout.own, inductionHypothesis below⟩

end HasSite

/-- Each node that a line enters has a site. -/
theorem Follows.exists_site {sender : Sender} {acceptable : Cursor → Bool} {cursor : Cursor}
    {route : Route ω} {above behind : List (Node ω)}
    (follows : root.Follows sender acceptable cursor route)
    (nodes : root :: route.nodes = above ++ node :: behind) :
    ∃ address, root.HasSite ⟨address, above, node⟩ := by
  induction follows generalizing above with
  | exhausted | stuck =>
      rcases List.append_eq_singleton_iff.mp nodes.symm with ⟨rfl, same⟩ | ⟨_, nothing⟩
      · obtain ⟨rfl, _⟩ := List.cons.inj same
        exact ⟨[], .root _⟩
      · cases nothing
  | @step parent child earlier later cursor after binding route more children refused taken rest
      inductionHypothesis =>
      cases above with
      | nil =>
          obtain ⟨rfl, _⟩ := List.cons.inj nodes
          exact ⟨[], .root _⟩
      | cons first above =>
          obtain ⟨rfl, tail⟩ := List.cons.inj nodes
          obtain ⟨address, hasSite⟩ := inductionHypothesis tail
          have entered : parent.children[earlier.length]? = some child := by
            rw [children]
            simp
          exact ⟨earlier.length :: address, .child entered hasSite⟩

end Node

end CommandShell
