/-
This file reads TOML documents.
-/

import CommandShell.Toml.Scalar

namespace CommandShell.Toml

/-- A reader takes the start of a text and leaves the rest. -/
abbrev Reader (α : Type) := List Char → Option (α × List Char)

def isInlineBlank (char : Char) : Bool :=
  char == ' ' || char == '\t'

def skipInlineBlanks (text : List Char) : List Char :=
  text.dropWhile isInlineBlank

/-- This skips blanks, line ends and comments. -/
def skipGaps (inComment : Bool) : List Char → Option (List Char)
  | [] => some []
  | '\r' :: '\n' :: rest => skipGaps false rest
  | char :: rest =>
      if char = '\n' then skipGaps false rest
      else if inComment then (if isControl char then none else skipGaps true rest)
      else if char = '#' then skipGaps true rest
      else if isInlineBlank char then skipGaps false rest
      else some (char :: rest)

def isKeyChar (char : Char) : Bool :=
  char.isAlphanum || char == '_' || char == '-'

/-- A key is a bare word or a string on one line. -/
def readKey : Reader String
  | '\x22' :: rest => (readBasic .plain rest).map fun parts => (String.ofList parts.1, parts.2)
  | '\x27' :: rest => (readLiteral rest).map fun parts => (String.ofList parts.1, parts.2)
  | text =>
      let key := text.takeWhile isKeyChar
      if key.isEmpty then none else some (String.ofList key, text.dropWhile isKeyChar)

/-- Values lie within one another at most this deep, and dotted keys have at most so many parts. -/
def greatestDepth : Nat := 80

/-- The bound is on the number of keys. -/
def readKeys : Nat → Reader (List String)
  | 0, _ => none
  | bound + 1, text => do
      let (key, text) ← readKey (skipInlineBlanks text)
      match skipInlineBlanks text with
      | '.' :: text =>
          let (keys, text) ← readKeys bound text
          return (key :: keys, text)
      | text => return ([key], text)

/-- This reads a dotted key as a path and its last part. -/
def readPath (text : List Char) : Option ((List String × String) × List Char) := do
  let (keys, text) ← readKeys greatestDepth text
  return ((keys.dropLast, ← keys.getLast?), text)

def isScalarChar (char : Char) : Bool :=
  !(char ∈ [' ', '\t', '\r', '\n', '#', ',', '=', '[', ']', '\x7b', '\x7d'])

def startsWord (text : List Char) : Bool :=
  text.head?.any fun char => isScalarChar char && !(char ∈ ['\x22', '\x27'])

/-- A value without quotes goes on behind blanks if another word stands there, as a time does behind
its date. -/
def scalarToken : List Char → List Char × List Char
  | [] => ([], [])
  | char :: rest =>
      if isScalarChar char || (isInlineBlank char && startsWord (skipInlineBlanks rest)) then
        let (token, rest) := scalarToken rest
        (char :: token, rest)
      else
        ([], char :: rest)

mutual

/-- The first bound is on the number of steps; each takes a character or ends a value. The second
one is on the depth of the value. -/
def readValue : Nat → Nat → Reader Value
  | 0, _, _ => none
  | bound + 1, depth, text =>
      match text, depth with
      | '[' :: rest, depth + 1 => do
          let (items, rest) ← readItems bound depth (← skipGaps false rest)
          return (.array items, rest)
      | '\x7b' :: rest, depth + 1 => do
          let (table, rest) ← readEntries bound depth [] (← skipGaps false rest)
          return (.table .inline table, rest)
      | '[' :: _, 0 | '\x7b' :: _, 0 => none
      | '\x22' :: _, _ | '\x27' :: _, _ =>
          (readString text).map fun parts => (.string (String.ofList parts.1), parts.2)
      | _, _ => do
          let (token, rest) := scalarToken text
          return (← scalar? token, rest)

/-- This reads the items of an array up to its end; a comma may stand behind the last one. -/
def readItems : Nat → Nat → Reader (List Value)
  | 0, _, _ => none
  | bound + 1, depth, text =>
      match text with
      | ']' :: rest => some ([], rest)
      | _ => do
          let (item, rest) ← readValue bound depth text
          match ← skipGaps false rest with
          | ',' :: rest =>
              let (items, rest) ← readItems bound depth (← skipGaps false rest)
              return (item :: items, rest)
          | ']' :: rest => return ([item], rest)
          | _ => none

/-- This reads the entries of an inline table up to its end. An entry may go over several lines. -/
def readEntries : Nat → Nat → Table → Reader Table
  | 0, _, _, _ => none
  | bound + 1, depth, table, text =>
      match text with
      | '\x7d' :: rest => some (table, rest)
      | _ => do
          let ((path, key), rest) ← readPath text
          match ← skipGaps false rest with
          | '=' :: rest =>
              let (value, rest) ← readValue bound depth (← skipGaps false rest)
              let table ← Table.insert? path key value .header table
              match ← skipGaps false rest with
              | ',' :: rest => readEntries bound depth table (← skipGaps false rest)
              | '\x7d' :: rest => return (table, rest)
              | _ => none
          | _ => none

end

/-- Nothing but a comment may follow on the same line. -/
def endLine (text : List Char) : Option (List Char) :=
  match skipInlineBlanks text with
  | [] => some []
  | '\n' :: rest => some rest
  | '\r' :: '\n' :: rest => some rest
  | '#' :: rest => skipGaps true rest
  | _ => none

def readLine (text : List Char) : Option (Line × List Char) :=
  match text with
  | '[' :: '[' :: rest => do
      let ((path, key), rest) ← readPath rest
      match rest with
      | ']' :: ']' :: rest => return (.element path key, ← endLine rest)
      | _ => none
  | '[' :: rest => do
      let ((path, key), rest) ← readPath rest
      match rest with
      | ']' :: rest => return (.header path key, ← endLine rest)
      | _ => none
  | _ => do
      let ((path, key), rest) ← readPath text
      match rest with
      | '=' :: rest =>
          let rest := skipInlineBlanks rest
          let (value, rest) ← readValue (2 * rest.length + 2) greatestDepth rest
          return (.entry path key value, ← endLine rest)
      | _ => none

/-- The bound is on the number of lines. -/
def readLines : Nat → List Char → Option (List Line)
  | 0, _ => none
  | bound + 1, text => do
      match ← skipGaps false text with
      | [] => return []
      | text =>
          let (line, rest) ← readLine text
          return line :: (← readLines bound rest)

/-- A mark of the byte order may stand before the document. -/
def read? (text : String) : Option Table := do
  let chars := text.toList
  let chars := if chars.head? = some '\ufeff' then chars.drop 1 else chars
  let document ← Document.ofLines? (← readLines (chars.length + 1) chars)
  return document.table

end CommandShell.Toml
