/-
This file reads quotations: texts between two equal quotes, in which a backslash stands before a
quote of that kind or another backslash that belongs to the text.
-/

namespace CommandShell.Text

def isQuote (char : Char) : Bool :=
  char == '\x22' || char == '\x27'

inductive QuotationFault where
  | unterminated
  | invalidEscape (char : Char)
  deriving Repr, DecidableEq

/-- The remainder is where reading stopped, behind the closing quote or where the fault was seen. -/
structure Quotation where
  result : Except QuotationFault (List Char)
  remainder : List Char

namespace Quotation

def cons (char : Char) (quotation : Quotation) : Quotation where
  result := quotation.result.map (char :: ·)
  remainder := quotation.remainder

/-- This reads a quotation behind its opening quote. -/
def read (quote : Char) : List Char → Quotation
  | [] => ⟨.error .unterminated, []⟩
  | [char] =>
      if char = '\\' then ⟨.error .unterminated, []⟩
      else if char = quote then ⟨.ok [], []⟩
      else ⟨.error .unterminated, []⟩
  | char :: next :: rest =>
      if char = '\\' then
        if next = quote || next = '\\' then cons next (read quote rest)
        else ⟨.error (.invalidEscape next), next :: rest⟩
      else if char = quote then ⟨.ok [], next :: rest⟩
      else cons char (read quote (next :: rest))

/-- This is the text between quotes of a kind, with a backslash where reading needs one. -/
def encode (quote : Char) (text : List Char) : List Char :=
  quote :: text.flatMap (fun char =>
    if char = quote || char = '\\' then ['\\', char] else [char]) ++ [quote]

end Quotation

end CommandShell.Text
