/-
This file says what the kinds of arguments suggest by themselves.
-/

import CommandShell.Argument.Kind
import CommandShell.Suggestion.Suggester

namespace CommandShell.Argument.Kind

/-- Only two texts are booleans; other kinds have too many values to offer any. -/
def offer (suggester : Suggester) : Kind → Batch
  | .boolean => (suggester.suggestAll ["true", "false"]).batch
  | _ => suggester.batch

end CommandShell.Argument.Kind
