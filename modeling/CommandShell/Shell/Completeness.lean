/-
This file says whether more text is needed because a quote is still open.
-/

import CommandShell.Text.Blank
import CommandShell.Text.Quotation

namespace CommandShell.Shell

open Text

/-- Quotes open quotations only at the start of words. Within them a backslash hides the next
character. -/
inductive QuoteState where
  | outside (atStart : Bool)
  | inside (quote : Char)
  | escaped (quote : Char)
  deriving Repr, DecidableEq

namespace QuoteState

def next (state : QuoteState) (char : Char) : QuoteState :=
  match state with
  | .outside atStart => if atStart && isQuote char then .inside char else .outside (isBlank char)
  | .inside quote =>
      if char = '\\' then .escaped quote
      else if char = quote then .outside (isBlank char)
      else .inside quote
  | .escaped quote => .inside quote

def isOutside : QuoteState → Bool
  | .outside _ => true
  | _ => false

end QuoteState

def quotesClosed (line : String) : Bool :=
  (line.toList.foldl QuoteState.next (.outside true)).isOutside

end CommandShell.Shell
