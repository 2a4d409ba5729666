/-
This file holds the names of the players that are online.
-/

namespace CommandShell

namespace Roster

/-- The name is put before the first name that does not precede it. -/
def insertName (name : String) : List String → List String
  | [] => [name]
  | other :: rest =>
      if name < other then name :: other :: rest
      else if name = other then other :: rest
      else other :: insertName name rest

@[simp]
theorem mem_insertName {name other : String} {names : List String} :
    other ∈ insertName name names ↔ other = name ∨ other ∈ names := by
  induction names with
  | nil => simp [insertName]
  | cons head rest inductionHypothesis =>
      unfold insertName
      split
      · simp
      · split
        · rename_i same
          simp [same]
        · simp [inductionHypothesis, or_left_comm]

theorem insertName_pairwise (name : String) {names : List String}
    (sorted : names.Pairwise (· < ·)) : (insertName name names).Pairwise (· < ·) := by
  induction names with
  | nil => exact List.pairwise_singleton _ name
  | cons head rest inductionHypothesis =>
      have ⟨least, sortedRest⟩ := List.pairwise_cons.mp sorted
      unfold insertName
      split
      · rename_i before
        refine List.pairwise_cons.mpr ⟨?_, sorted⟩
        intro other member
        rcases List.mem_cons.mp member with rfl | later
        · exact before
        · exact String.lt_trans before (least other later)
      · split
        · exact sorted
        · refine List.pairwise_cons.mpr ⟨?_, inductionHypothesis sortedRest⟩
          intro other member
          rcases mem_insertName.mp member with rfl | later
          · grind
          · exact least other later

theorem insertName_of_mem {name : String} {names : List String} (sorted : names.Pairwise (· < ·))
    (member : name ∈ names) : insertName name names = names := by
  induction names with
  | nil => cases member
  | cons head rest inductionHypothesis =>
      have ⟨least, sortedRest⟩ := List.pairwise_cons.mp sorted
      rw [insertName]
      rcases List.mem_cons.mp member with rfl | later
      · rw [if_neg (String.lt_irrefl name), if_pos rfl]
      · have behind := least name later
        rw [if_neg (String.lt_asymm behind), inductionHypothesis sortedRest later, ite_eq_right_iff]
        rintro rfl
        rfl

end Roster

/-- The names are in order, each of them once. -/
@[ext]
structure Roster where
  names : List String
  sorted : names.Pairwise (· < ·)
  deriving Repr, DecidableEq

namespace Roster

def empty : Roster := ⟨[], .nil⟩

def contains (roster : Roster) (name : String) : Bool :=
  name ∈ roster.names

def insert (roster : Roster) (name : String) : Roster :=
  ⟨insertName name roster.names, insertName_pairwise name roster.sorted⟩

def erase (roster : Roster) (name : String) : Roster :=
  ⟨roster.names.erase name, roster.sorted.sublist List.erase_sublist⟩

/-- This tells whether the name was missing. -/
def add (roster : Roster) (name : String) : Bool × Roster :=
  (!roster.contains name, roster.insert name)

/-- This tells whether the name was there. -/
def remove (roster : Roster) (name : String) : Bool × Roster :=
  (roster.contains name, roster.erase name)

def ofList (names : List String) : Roster :=
  names.foldl insert empty

/-- These players are online when the shell starts. -/
def standard : Roster :=
  ofList ["alex", "notch", "steve"]

theorem names_nodup (roster : Roster) : roster.names.Nodup := by
  refine roster.sorted.imp ?_
  intro left right before same
  exact String.lt_irrefl right (same ▸ before)

/-- Who is online already changes nothing by joining. -/
theorem insert_of_contains {roster : Roster} {name : String} (online : roster.contains name) :
    roster.insert name = roster :=
  Roster.ext (insertName_of_mem roster.sorted (of_decide_eq_true online))

/-- Who is not online changes nothing by leaving. -/
theorem erase_of_not_contains {roster : Roster} {name : String} (offline : ¬ roster.contains name) :
    roster.erase name = roster := by
  have missing : name ∉ roster.names := by simpa [contains] using offline
  exact Roster.ext (List.erase_of_not_mem missing)

@[simp]
theorem contains_insert (roster : Roster) (name other : String) :
    (roster.insert name).contains other = (other == name || roster.contains other) := by
  rw [Bool.eq_iff_iff]
  simp [contains, insert]

theorem contains_foldl_insert (names : List String) (roster : Roster) (name : String) :
    (names.foldl insert roster).contains name ↔ roster.contains name ∨ name ∈ names := by
  induction names generalizing roster with
  | nil => simp
  | cons first rest inductionHypothesis =>
      rw [List.foldl_cons, inductionHypothesis, contains_insert, List.mem_cons, Bool.or_eq_true,
        beq_iff_eq, or_assoc, or_left_comm]

theorem contains_ofList (names : List String) (name : String) :
    (ofList names).contains name ↔ name ∈ names := by
  rw [ofList, contains_foldl_insert]
  simp [contains, empty]

@[simp]
theorem contains_erase (roster : Roster) (name other : String) :
    (roster.erase name).contains other = (other != name && roster.contains other) := by
  rw [Bool.eq_iff_iff]
  simp [contains, erase, roster.names_nodup.mem_erase_iff]

end Roster

end CommandShell
