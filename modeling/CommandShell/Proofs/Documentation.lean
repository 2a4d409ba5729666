/-
This file shows that the lines of a command that a sender is told of are those that can call
something: there is one for each node with an executor that the sender can get to, and an executor
that a line calls is the one of such a node.
-/

import CommandShell.Proofs.Answer
import CommandShell.Proofs.Site

namespace CommandShell

namespace Site

variable {ω : Type}

/-- The root itself need not be visible. -/
def isDocumented (sender : Sender) (site : Site ω) : Bool :=
  site.entered.all (Node.visibleTo sender) && site.node.isExecutable

/-- These are the parts of a line that leads to a site, behind a text for the root. -/
def line (lead : String) (site : Site ω) : String :=
  " ".intercalate (lead :: site.entered.map fun node => node.segment.usage)

theorem isDocumented_iff {sender : Sender} {site : Site ω} :
    site.isDocumented sender ↔
      (∀ node ∈ site.entered, node.visibleTo sender) ∧ site.node.isExecutable := by
  rw [isDocumented, Bool.and_eq_true, List.all_eq_true]

variable {parent child : Node ω} {site : Site ω}

theorem isDocumented_below (sender : Sender) (number : Nat) (inside : child.HasSite site) :
    (site.below parent number).isDocumented sender =
      (child.visibleTo sender && site.isDocumented sender) := by
  rw [isDocumented, entered_below, inside.path_eq, List.all_cons, Bool.and_assoc]
  rfl

theorem line_below (lead : String) (number : Nat) (inside : child.HasSite site) :
    (site.below parent number).line lead = site.line (lead ++ " " ++ child.segment.usage) := by
  rw [line, entered_below, inside.path_eq]
  rfl

/-- The documented sites in a child are those of the child, if the child is visible. -/
theorem map_line_below (sender : Sender) (lead : String) (number : Nat) :
    ((child.sites.map (below parent number)).filter (isDocumented sender)).map (line lead) =
      if child.visibleTo sender then
        (child.sites.filter (isDocumented sender)).map (line (lead ++ " " ++ child.segment.usage))
      else
        [] := by
  have documented : ∀ site ∈ child.sites, (site.below parent number).isDocumented sender =
      (child.visibleTo sender && site.isDocumented sender) :=
    fun site member => isDocumented_below sender number (Node.mem_sites_iff.mp member)
  rw [List.filter_map, List.map_map]
  cases visible : child.visibleTo sender with
  | true =>
      have same : child.sites.filter (isDocumented sender ∘ below parent number) =
          child.sites.filter (isDocumented sender) :=
        List.filter_congr fun site member => by simp [documented site member, visible]
      rw [same, if_pos rfl]
      refine List.map_congr_left fun site member => ?_
      exact line_below lead number (Node.mem_sites_iff.mp (List.mem_filter.mp member).1)
  | false =>
      have none : child.sites.filter (isDocumented sender ∘ below parent number) = [] :=
        List.filter_eq_nil_iff.mpr fun site member => by simp [documented site member, visible]
      rw [none]
      rfl

end Site

namespace Node

variable {ω : Type} (sender : Sender)

mutual

theorem executableLines_eq (lead : String) : ∀ node : Node ω,
    node.executableLines sender lead =
      (node.sites.filter (Site.isDocumented sender)).map (Site.line lead)
  | .node segment executor requirement children => by
      rw [executableLines, executableLinesAmong_eq lead
        (.node segment executor requirement children) 0 children, sites, List.filter_cons]
      cases executor <;> rfl

theorem executableLinesAmong_eq (lead : String) (parent : Node ω) (number : Nat) :
    ∀ children : List (Node ω), executableLinesAmong sender lead children =
      ((sitesAmong parent number children).filter (Site.isDocumented sender)).map (Site.line lead)
  | [] => rfl
  | child :: rest => by
      rw [executableLinesAmong, executableLines_eq _ child,
        executableLinesAmong_eq lead parent (number + 1) rest, sitesAmong, List.filter_append,
        List.map_append, Site.map_line_below]

end

/-- A line enters only nodes that the sender sees. -/
theorem Follows.visible {sender : Sender} {acceptable : Cursor → Bool} {node : Node ω}
    {cursor : Cursor} {route : Route ω} (follows : node.Follows sender acceptable cursor route) :
    ∀ other ∈ route.nodes, other.visibleTo sender := by
  induction follows with
  | exhausted | stuck => exact fun other member => nomatch member
  | step _ _ _ taken _ inductionHypothesis =>
      exact List.forall_mem_cons.mpr ⟨taken.visible, inductionHypothesis⟩

end Node

namespace Command

variable {ω : Type} {command : Command ω} {sender : Sender} {line : String} {call : Call ω}

/-- A line calls the executor of a site: its node is the last one with an executor that the line
enters, and the sender sees the way to it. -/
structure CallsAt (command : Command ω) (sender : Sender) (line : String) (executor : Executor ω)
    (site : Site ω) : Prop where
  executes : site.node.executor = some executor
  enters : ∃ behind, (command.descend sender (Cursor.ofLine line).skipWord).nodes =
    site.path ++ behind ∧ ∀ node ∈ behind, node.executor = none
  visible : ∀ node ∈ site.path, node.visibleTo sender

theorem exists_site_of_resolve (resolved : command.resolve sender line = .ok call) :
    ∃ site, command.root.HasSite site ∧ command.CallsAt sender line call.executor site := by
  cases ((command.resolve_eq_iff_answers sender line).1 _).mp resolved with
  | @call _ _ route above below node executor admits follows _ nodes executes last =>
      obtain ⟨labelled, known, usable⟩ := admits
      obtain ⟨rfl, rfl⟩ := Labelled.iff_eq.mp labelled
      obtain ⟨address, hasSite⟩ := follows.exists_site nodes
      -- The line may enter more nodes behind the one that executes, so its site is cut off there.
      have split : command.root :: route.nodes = (above ++ [node]) ++ below := by
        rw [nodes, List.append_assoc, List.singleton_append]
      have rootVisible : command.root.visibleTo sender :=
        (Bool.and_eq_true_iff.mp (not_rejects_iff.mp usable)).2
      have visible : ∀ other ∈ command.root :: route.nodes, other.visibleTo sender :=
        List.forall_mem_cons.mpr ⟨rootVisible, follows.visible⟩
      rw [split] at visible
      refine ⟨_, hasSite, executes, ⟨below, ?_, last⟩, fun other member => ?_⟩
      · rw [command.descend_of_follows follows]
        exact split
      · exact visible other (List.mem_append_left _ member)

/-- What a line calls belongs to a documented site. -/
theorem CallsAt.isDocumented {executor : Executor ω} {site : Site ω}
    (calls : command.CallsAt sender line executor site) : site.isDocumented sender := by
  have executable : site.node.isExecutable := by
    rw [Node.isExecutable, calls.executes, Option.isSome]
  exact Site.isDocumented_iff.mpr
    ⟨fun node member => calls.visible node (List.mem_of_mem_tail member), executable⟩

/-- A command documents one line for each node with an executor that the sender gets to, in the
order of the tree. The node whose executor a line calls is one of them, so that a sender who is told
of no line can call none. -/
theorem documents_calls (command : Command ω) (sender : Sender) :
    ∃ sites : List (Site ω), command.executableLines sender = sites.map (Site.line command.name) ∧
      sites.Pairwise Site.Precedes ∧
      (∀ site, site ∈ sites ↔ command.root.HasSite site ∧
        (∀ node ∈ site.entered, node.visibleTo sender) ∧ site.node.isExecutable) ∧
      (∀ line call, command.resolve sender line = .ok call →
        ∃ site ∈ sites, command.CallsAt sender line call.executor site) ∧
      (command.executableLines sender = [] →
        ∀ line outcome, command.execute sender line ≠ .ok outcome) := by
  have lines : command.executableLines sender =
      (command.root.sites.filter (Site.isDocumented sender)).map (Site.line command.name) :=
    Node.executableLines_eq sender command.name command.root
  have called (line : String) (call : Call ω) (resolved : command.resolve sender line = .ok call) :
      ∃ site ∈ command.root.sites.filter (Site.isDocumented sender),
        command.CallsAt sender line call.executor site := by
    obtain ⟨site, hasSite, calls⟩ := exists_site_of_resolve resolved
    have member := List.mem_filter.mpr ⟨Node.mem_sites_iff.mpr hasSite, calls.isDocumented⟩
    exact ⟨site, member, calls⟩
  refine ⟨_, lines, command.root.sites_pairwise.filter _, fun site => ?_, called, ?_⟩
  · rw [List.mem_filter, Node.mem_sites_iff, Site.isDocumented_iff]
  · intro silent line outcome executed
    cases resolved : command.resolve sender line with
    | error error =>
        rw [execute, resolved] at executed
        cases executed
    | ok call =>
        obtain ⟨site, member, _⟩ := called line call resolved
        rw [lines, List.map_eq_nil_iff] at silent
        rw [silent] at member
        cases member

end Command

end CommandShell
