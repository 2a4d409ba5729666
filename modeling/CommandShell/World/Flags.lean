/-
This file holds the switches of the world.
-/

namespace CommandShell

namespace Flags

/-- The entry of the name is replaced, or put before the first name that does not precede it. -/
def setEntry (name : String) (value : Bool) : List (String × Bool) → List (String × Bool)
  | [] => [(name, value)]
  | entry :: rest =>
      if name < entry.1 then (name, value) :: entry :: rest
      else if name = entry.1 then (name, value) :: rest
      else entry :: setEntry name value rest

theorem name_of_mem_setEntry {name : String} {value : Bool} {entry : String × Bool}
    {entries : List (String × Bool)} (member : entry ∈ setEntry name value entries) :
    entry.1 = name ∨ entry ∈ entries := by
  induction entries with
  | nil => simp_all [setEntry]
  | cons head rest inductionHypothesis =>
      unfold setEntry at member
      split at member
      · rcases List.mem_cons.mp member with rfl | old
        · exact .inl rfl
        · exact .inr old
      · split at member
        · rcases List.mem_cons.mp member with rfl | old
          · exact .inl rfl
          · exact .inr (List.mem_cons_of_mem _ old)
        · rcases List.mem_cons.mp member with rfl | deeper
          · exact .inr List.mem_cons_self
          · exact (inductionHypothesis deeper).imp_right (List.mem_cons_of_mem _)

theorem setEntry_pairwise (name : String) (value : Bool) {entries : List (String × Bool)}
    (sorted : entries.Pairwise (·.1 < ·.1)) :
    (setEntry name value entries).Pairwise (·.1 < ·.1) := by
  induction entries with
  | nil => exact List.pairwise_singleton _ _
  | cons head rest inductionHypothesis =>
      have ⟨least, sortedRest⟩ := List.pairwise_cons.mp sorted
      unfold setEntry
      split
      · rename_i before
        refine List.pairwise_cons.mpr ⟨?_, sorted⟩
        intro other member
        rcases List.mem_cons.mp member with rfl | later
        · exact before
        · exact String.lt_trans before (least other later)
      · split
        · rename_i same
          exact List.pairwise_cons.mpr ⟨fun other member => same ▸ least other member, sortedRest⟩
        · refine List.pairwise_cons.mpr ⟨?_, inductionHypothesis sortedRest⟩
          intro other member
          rcases name_of_mem_setEntry member with same | later
          · grind
          · exact least other later

theorem lookup_entry_cons (name : String) (entry : String × Bool) (rest : List (String × Bool)) :
    (entry :: rest).lookup name = if name = entry.1 then some entry.2 else rest.lookup name := by
  rw [List.lookup_cons]
  by_cases found : name = entry.1
  · simp [found]
  · simp [found, beq_false_of_ne found]

theorem lookup_setEntry (name other : String) (value : Bool) (entries : List (String × Bool)) :
    (setEntry name value entries).lookup other =
      if other = name then some value else entries.lookup other := by
  induction entries with
  | nil => exact lookup_entry_cons other (name, value) []
  | cons head rest inductionHypothesis =>
      unfold setEntry
      split
      · exact lookup_entry_cons other (name, value) (head :: rest)
      · split
        · rename_i same
          simp only [lookup_entry_cons, ← same]
          split <;> rfl
        · rename_i different
          simp only [lookup_entry_cons, inductionHypothesis]
          by_cases wanted : other = name
          · simp [wanted, different]
          · simp [wanted]

end Flags

/-- The flags that were ever set are in the order of their names. -/
@[ext]
structure Flags where
  entries : List (String × Bool)
  sorted : entries.Pairwise (·.1 < ·.1)
  deriving Repr, DecidableEq

namespace Flags

def empty : Flags := ⟨[], .nil⟩

/-- Flags that were never set are off. -/
def get (flags : Flags) (name : String) : Bool :=
  (flags.entries.lookup name).getD false

def set (flags : Flags) (name : String) (value : Bool) : Flags :=
  ⟨setEntry name value flags.entries, setEntry_pairwise name value flags.sorted⟩

/-- These flags are suggested, with what they stand for. -/
def known : List (String × String) := [
  ("daylight", "Advance the day/night cycle"),
  ("debug", "Verbose command feedback"),
  ("pvp", "Allow players to damage each other"),
  ("weather", "Advance the weather cycle")]

end Flags

end CommandShell
