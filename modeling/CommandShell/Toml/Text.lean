/-
This file reads the strings of TOML.
-/

namespace CommandShell.Toml

/-- Strings and comments hold no controls but tabs. -/
def isControl (char : Char) : Bool :=
  (char.toNat < 0x20 && char != '\t') || char.toNat == 0x7f

def hexadecimalDigit? (char : Char) : Option Nat :=
  if char.isDigit then some (char.toNat - '0'.toNat)
  else if 'a' ≤ char && char ≤ 'f' then some (char.toNat - 'a'.toNat + 10)
  else if 'A' ≤ char && char ≤ 'F' then some (char.toNat - 'A'.toNat + 10)
  else none

/-- This is the character of a code point, if it has one. -/
def charOf? (code : Nat) : Option Char :=
  if valid : code.isValidChar then some (Char.ofNatAux code valid) else none

/-- This is the place in a string with escapes: in plain text, behind a backslash, or within a code
point with some digits left. In strings of several lines a backslash at the end of a line hides all
blanks up to the next word. -/
inductive Place where
  | plain
  | escape
  | code (left value : Nat)
  | lineEnd
  | hidden
  deriving Repr, DecidableEq

/-- These escapes stand for one character each. -/
def escapes : List (Char × Char) := [
  ('b', '\x08'), ('t', '\t'), ('n', '\n'), ('f', '\x0c'), ('r', '\r'), ('e', '\x1b'),
  ('\x22', '\x22'), ('\\', '\\')]

/-- These escapes are followed by the digits of a code point. -/
def codeEscapes : List (Char × Nat) := [('x', 2), ('u', 4), ('U', 8)]

abbrev StringReading := Option (List Char × List Char)

def StringReading.cons (char : Char) (reading : StringReading) : StringReading :=
  reading.map fun parts => (char :: parts.1, parts.2)

/-- This reads a string with escapes up to its closing quote. -/
def readBasic : Place → List Char → StringReading
  | _, [] => none
  | .plain, char :: rest =>
      if char = '\x22' then some ([], rest)
      else if char = '\\' then readBasic .escape rest
      else if isControl char then none
      else .cons char (readBasic .plain rest)
  | .escape, char :: rest =>
      match escapes.lookup char, codeEscapes.lookup char with
      | some meant, _ => .cons meant (readBasic .plain rest)
      | none, some digits => readBasic (.code digits 0) rest
      | none, none => none
  | .code left value, char :: rest => do
      let code := 16 * value + (← hexadecimalDigit? char)
      if left ≤ 1 then
        StringReading.cons (← charOf? code) (readBasic .plain rest)
      else
        readBasic (.code (left - 1) code) rest
  | _, _ :: _ => none

/-- This reads a string without escapes up to its closing quote. -/
def readLiteral : List Char → StringReading
  | [] => none
  | char :: rest =>
      if char = '\x27' then some ([], rest)
      else if isControl char then none
      else .cons char (readLiteral rest)

/-- Three quotes close a string of several lines; up to two more before them belong to it. -/
def closing? (quote : Char) : List Char → StringReading
  | first :: second :: third :: fourth :: fifth :: rest =>
      if [first, second, third] ≠ [quote, quote, quote] then none
      else if fourth ≠ quote then some ([], fourth :: fifth :: rest)
      else if fifth ≠ quote then some ([quote], fifth :: rest)
      else some ([quote, quote], rest)
  | [first, second, third, fourth] =>
      if [first, second, third] ≠ [quote, quote, quote] then none
      else if fourth ≠ quote then some ([], [fourth])
      else some ([quote], [])
  | [first, second, third] =>
      if [first, second, third] = [quote, quote, quote] then some ([], []) else none
  | _ => none

/-- A line end has one character or two. -/
def startsLineEnd (char : Char) (rest : List Char) : Bool :=
  char == '\n' || (char == '\r' && rest.head? == some '\n')

/-- This reads a string of several lines with escapes. -/
def readLongBasic : Place → List Char → StringReading
  | _, [] => none
  | .plain, char :: rest =>
      match closing? '\x22' (char :: rest) with
      | some parts => some parts
      | none =>
          if char = '\\' then readLongBasic .escape rest
          else if isControl char && !startsLineEnd char rest then none
          else .cons char (readLongBasic .plain rest)
  | .escape, char :: rest =>
      match escapes.lookup char, codeEscapes.lookup char with
      | some meant, _ => .cons meant (readLongBasic .plain rest)
      | none, some digits => readLongBasic (.code digits 0) rest
      | none, none =>
          if startsLineEnd char rest then readLongBasic .hidden rest
          else if char = ' ' || char = '\t' then readLongBasic .lineEnd rest
          else none
  | .code left value, char :: rest => do
      let code := 16 * value + (← hexadecimalDigit? char)
      if left ≤ 1 then
        StringReading.cons (← charOf? code) (readLongBasic .plain rest)
      else
        readLongBasic (.code (left - 1) code) rest
  | .lineEnd, char :: rest =>
      if startsLineEnd char rest then readLongBasic .hidden rest
      else if char = ' ' || char = '\t' then readLongBasic .lineEnd rest
      else none
  | .hidden, char :: rest =>
      match closing? '\x22' (char :: rest) with
      | some parts => some parts
      | none =>
          if char = ' ' || char = '\t' || startsLineEnd char rest || char = '\n' then
            readLongBasic .hidden rest
          else if char = '\\' then readLongBasic .escape rest
          else if isControl char then none
          else .cons char (readLongBasic .plain rest)

/-- This reads a string of several lines without escapes. -/
def readLongLiteral : List Char → StringReading
  | [] => none
  | char :: rest =>
      match closing? '\x27' (char :: rest) with
      | some parts => some parts
      | none =>
          if isControl char && !startsLineEnd char rest then none
          else .cons char (readLongLiteral rest)

/-- A line end right behind the opening quotes does not belong to the string. -/
def skipLineEnd : List Char → List Char
  | '\n' :: rest => rest
  | '\r' :: '\n' :: rest => rest
  | text => text

/-- This reads a string of any form from its opening quote. -/
def readString : List Char → StringReading
  | '\x22' :: '\x22' :: '\x22' :: rest => readLongBasic .plain (skipLineEnd rest)
  | '\x27' :: '\x27' :: '\x27' :: rest => readLongLiteral (skipLineEnd rest)
  | '\x22' :: rest => readBasic .plain rest
  | '\x27' :: rest => readLiteral rest
  | _ => none

end CommandShell.Toml
