/-
This file maps texts to lowercase by the full Unicode mapping. Two letters do not map by themselves:
a capital sigma at the end of a word has its own small letter, and a capital I with a dot becomes two
characters.
-/

import CommandShell.Text.Table.Cased
import CommandShell.Text.Table.CaseIgnorable
import CommandShell.Text.Table.LowercaseRuns

namespace CommandShell.Text

namespace CaseRun

def covers (run : CaseRun) (code : Nat) : Bool :=
  run.first ≤ code && code ≤ run.last && (code - run.first) % run.step == 0

def apply (run : CaseRun) (code : Nat) : Nat :=
  run.lower + (code - run.first)

end CaseRun

def lowercaseLetter (char : Char) : List Char :=
  if char.toNat < 128 then
    [char.toLower]
  else if char == '\u0130' then
    ['i', '\u0307']
  else
    match lowercaseRuns.find? fun run => run.covers char.toNat with
    | some run => [Char.ofNat (run.apply char.toNat)]
    | none => [char]

/-- This says whether the nearest character that case rules do not look past has case. -/
def startsCased (text : List Char) : Bool :=
  match text.dropWhile caseIgnorable.contains with
  | [] => false
  | char :: _ => cased.contains char

/-- The first argument is the text before, in reverse. -/
def lowercaseAfter : List Char → List Char → List Char
  | _, [] => []
  | before, char :: rest =>
      let letters :=
        if char == '\u03a3' then
          if startsCased before && !startsCased rest then ['\u03c2'] else ['\u03c3']
        else
          lowercaseLetter char
      letters ++ lowercaseAfter (char :: before) rest

def lowercase (text : List Char) : List Char :=
  lowercaseAfter [] text

end CommandShell.Text
