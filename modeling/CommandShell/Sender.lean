/-
This file represents the senders of command lines and what they are permitted to do.
-/

namespace CommandShell

structure Sender where
  name : String
  /-- A grant that ends in `.*` covers all permissions below it, and `*` covers all. -/
  grants : List String
  /-- Operators hold every permission. -/
  operator : Bool
  deriving Repr, DecidableEq

namespace Sender

/-- These are the parts of a permission before each of its dots. -/
def ancestors : List Char → List (List Char)
  | [] => []
  | char :: rest =>
      let deeper := (ancestors rest).map (char :: ·)
      if char = '.' then [] :: deeper else deeper

def isGranted (sender : Sender) (permission : List Char) : Bool :=
  sender.grants.any fun grant => grant.toList = permission

def holds (sender : Sender) (permission : String) : Bool :=
  sender.operator || permission.isEmpty || sender.isGranted permission.toList ||
    sender.isGranted ['*'] ||
    (ancestors permission.toList).any fun ancestor => sender.isGranted (ancestor ++ ['.', '*'])

/-- These are the grants in order, each of them once. -/
def distinctGrants (sender : Sender) : List String :=
  sender.grants.eraseDups.mergeSort fun left right => left ≤ right

end Sender

end CommandShell
