/-
This file represents the parts of a line that suggestions replace.
-/

import CommandShell.Text.Offset

namespace CommandShell

open Text

/-- These are the bytes of a line from one offset up to another. -/
@[ext]
structure Span where
  start : Nat
  stop : Nat
  ordered : start ≤ stop := by omega
  deriving Repr, DecidableEq

namespace Span

/-- The offsets may come in either order. -/
def between (first second : Nat) : Span where
  start := min first second
  stop := max first second

def empty (offset : Nat) : Span where
  start := offset
  stop := offset

/-- This is the smallest span that covers two others. -/
def cover (left right : Span) : Span where
  start := min left.start right.start
  stop := max left.stop right.stop
  ordered := by have := left.ordered; have := right.ordered; omega

def length (span : Span) : Nat :=
  span.stop - span.start

def isEmpty (span : Span) : Bool :=
  span.start = span.stop

/-- The span may reach past the end of the line; a span between characters covers nothing. -/
def text (span : Span) (line : List Char) : List Char :=
  let stop := min span.stop (byteLength line)
  (slice? (min span.start stop) stop line).getD []

def compare : Span → Span → Ordering :=
  compareLex (compareOn start) (compareOn stop)

instance : Ord Span := ⟨compare⟩

instance : Std.TransOrd Span :=
  inferInstanceAs (Std.TransCmp (compareLex (compareOn start) (compareOn stop)))

theorem eq_of_compare {left right : Span} (same : Ord.compare left right = .eq) :
    left = right := by
  simp only [Ord.compare, compare, compareLex, Ordering.then_eq_eq] at same
  exact Span.ext (Std.LawfulEqOrd.eq_of_compare same.1) (Std.LawfulEqOrd.eq_of_compare same.2)

instance : Std.LawfulEqOrd Span where
  eq_of_compare := eq_of_compare

end Span

end CommandShell
