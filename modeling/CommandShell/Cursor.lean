/-
This file holds the place up to which a line has been read. Reading moves the cursor and does nothing
else, so that a failed attempt is undone by keeping the cursor from before it.
-/

import CommandShell.Argument.Fault
import CommandShell.Text.Blank
import CommandShell.Text.Offset
import CommandShell.Text.Quotation

namespace CommandShell

open Argument Text

structure Cursor where
  consumed : List Char
  remaining : List Char
  deriving Repr, DecidableEq

namespace Cursor

def ofList (line : List Char) : Cursor := ⟨[], line⟩

def ofLine (line : String) : Cursor := ofList line.toList

def line (cursor : Cursor) : List Char :=
  cursor.consumed ++ cursor.remaining

def offset (cursor : Cursor) : Nat :=
  byteLength cursor.consumed

/-- This moves to the greatest boundary of the line that is at most the offset. -/
def moveTo (offset : Nat) (cursor : Cursor) : Cursor :=
  let parts := cutDown offset cursor.line
  ⟨parts.1, parts.2⟩

/-- This moves past a number of characters. -/
def advance (count : Nat) (cursor : Cursor) : Cursor :=
  ⟨cursor.consumed ++ cursor.remaining.take count, cursor.remaining.drop count⟩

@[simp]
theorem line_moveTo (offset : Nat) (cursor : Cursor) : (cursor.moveTo offset).line = cursor.line :=
  cutDown_append offset cursor.line

@[simp]
theorem line_advance (count : Nat) (cursor : Cursor) : (cursor.advance count).line = cursor.line := by
  simp [line, advance]

@[simp]
theorem remaining_advance (count : Nat) (cursor : Cursor) :
    (cursor.advance count).remaining = cursor.remaining.drop count := rfl

/-- Reading never moves back. -/
theorem offset_le_advance (count : Nat) (cursor : Cursor) :
    cursor.offset ≤ (cursor.advance count).offset := by
  simp [offset, advance]

def peek? (cursor : Cursor) : Option Char :=
  cursor.remaining.head?

def skip (cursor : Cursor) : Cursor :=
  cursor.advance 1

def atEnd (cursor : Cursor) : Bool :=
  cursor.remaining.isEmpty

def atBlank (cursor : Cursor) : Bool :=
  cursor.peek?.any isBlank

/-- Words end at boundaries: before a blank and at the end of the line. -/
def atBoundary (cursor : Cursor) : Bool :=
  cursor.atEnd || cursor.atBlank

def skipBlanks (cursor : Cursor) : Cursor :=
  cursor.advance (cursor.remaining.takeWhile isBlank).length

/-- This is the longest text without blanks at the cursor. -/
def word (cursor : Cursor) : List Char :=
  cursor.remaining.takeWhile isSolid

def skipWord (cursor : Cursor) : Cursor :=
  cursor.advance cursor.word.length

def skipRemaining (cursor : Cursor) : Cursor :=
  cursor.advance cursor.remaining.length

/-- This moves to an end of the remaining text. -/
def leave (remainder : List Char) (cursor : Cursor) : Cursor :=
  cursor.advance (cursor.remaining.length - remainder.length)

/-- This reads a quotation with its quotes; at the end of the line it is empty. The cursor is left
where a fault was seen. -/
def readQuotation (cursor : Cursor) : Except DecodeError String × Cursor :=
  match cursor.remaining with
  | [] => (.ok "", cursor)
  | quote :: rest =>
      if isQuote quote then
        let quotation := Quotation.read quote rest
        let left := cursor.leave quotation.remainder
        match quotation.result with
        | .ok text => (.ok (String.ofList text), left)
        | .error .unterminated => (.error ⟨.unterminatedQuote, left.offset⟩, left)
        | .error (.invalidEscape char) => (.error ⟨.invalidEscape char, left.offset⟩, left)
      else
        (.error ⟨.expectedQuote, cursor.offset⟩, cursor)

/-- A phrase is a quotation or a word. -/
def readPhrase (cursor : Cursor) : Except DecodeError String × Cursor :=
  if cursor.peek?.any isQuote then cursor.readQuotation
  else (.ok (String.ofList cursor.word), cursor.skipWord)

end Cursor

end CommandShell
