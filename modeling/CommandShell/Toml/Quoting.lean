/-
This file chooses the quotes between which strings are written.
-/

import CommandShell.Toml.Text

namespace CommandShell.Toml

/-- Single quotes hide nothing, and double quotes allow escapes. Three quotes of either kind stand
around texts of several lines. -/
inductive Quoting where
  | basic
  | literal
  | longBasic
  | longLiteral
  deriving Repr, DecidableEq

/-- This is the length of the longest run of a character that starts after a number of others of its
kind. -/
def longestRunAfter (wanted : Char) : Nat → List Char → Nat
  | length, [] => length
  | length, char :: rest =>
      if char = wanted then longestRunAfter wanted (length + 1) rest
      else max length (longestRunAfter wanted 0 rest)

def longestRun (wanted : Char) (text : List Char) : Nat :=
  longestRunAfter wanted 0 text

/-- These controls cannot be written as themselves between any quotes. -/
def needsCode (char : Char) : Bool :=
  isControl char && char != '\n'

namespace Quoting

/-- This is the length of the longest run of its quote that may stand within a quoting. -/
def allowedRun : Quoting → Nat
  | .basic | .literal => 0
  | .longBasic | .longLiteral => 2

def quote : Quoting → Char
  | .basic | .longBasic => '\x22'
  | .literal | .longLiteral => '\x27'

def isLong : Quoting → Bool
  | .basic | .literal => false
  | .longBasic | .longLiteral => true

def hasEscapes : Quoting → Bool
  | .basic | .longBasic => true
  | .literal | .longLiteral => false

/-- A text suits a quoting if it can be read from it as it stands. -/
def suits (text : List Char) (quoting : Quoting) : Bool :=
  !text.any needsCode && (quoting.isLong || '\n' ∉ text) &&
    !(quoting.hasEscapes && '\\' ∈ text) &&
    longestRun quoting.quote text ≤ quoting.allowedRun

/-- This is the first quoting that suits. If none does, there will be escapes. -/
def choose (text : List Char) : Quoting :=
  ([basic, literal, longBasic, longLiteral].find? (suits text)).getD
    (if '\n' ∈ text then .longBasic else .basic)

def mark (quoting : Quoting) : List Char :=
  List.replicate (if quoting.isLong then 3 else 1) quoting.quote

end Quoting

/-- This is a control as an escaped code point of four digits. -/
def writeCode (char : Char) : List Char :=
  let digits := (Nat.toDigits 16 char.toNat).map Char.toUpper
  '\\' :: 'u' :: List.replicate (4 - digits.length) '0' ++ digits

/-- A line end stands for itself. -/
def writeEscaped (char : Char) : List Char :=
  if char = '\x08' then ['\\', 'b']
  else if char = '\t' then ['\\', 't']
  else if char = '\x0c' then ['\\', 'f']
  else if char = '\r' then ['\\', 'r']
  else if char = '\\' then ['\\', '\\']
  else if needsCode char then writeCode char
  else [char]

/-- This writes a text with escapes. Only so many double quotes may stand in a row; some of them have
been written already. -/
def writeBasic (allowed : Nat) : Nat → List Char → List Char
  | _, [] => []
  | row, char :: rest =>
      if char = '\x22' then
        if row < allowed then char :: writeBasic allowed (row + 1) rest
        else '\\' :: char :: writeBasic allowed 0 rest
      else
        writeEscaped char ++ writeBasic allowed 0 rest

/-- A line end right behind the opening mark would be lost, so that texts of several lines start on a
line of their own. -/
def writeString (text : String) : String :=
  let chars := text.toList
  let quoting := Quoting.choose chars
  let lead := if '\n' ∈ chars then ['\n'] else []
  let body := if quoting.hasEscapes then writeBasic quoting.allowedRun 0 chars else chars
  String.ofList (quoting.mark ++ lead ++ body ++ quoting.mark)

end CommandShell.Toml
