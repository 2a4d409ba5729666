import CommandShell.Argument.Fault
import CommandShell.Argument.Kind
import CommandShell.Argument.Offer
import CommandShell.Argument.Value
import CommandShell.Binary.Decimal
import CommandShell.Binary.Fixed
import CommandShell.Binary.Number
import CommandShell.Binary.Rounding
import CommandShell.Binary.Shortest
import CommandShell.Command.Basic
import CommandShell.Command.Completion
import CommandShell.Command.Execution
import CommandShell.Command.Inspection
import CommandShell.Cursor
import CommandShell.Failure
import CommandShell.Invocation.Basic
import CommandShell.Invocation.Options
import CommandShell.Main
import CommandShell.Node.Basic
import CommandShell.Node.Context
import CommandShell.Node.Inspection
import CommandShell.Node.Soundness
import CommandShell.Node.Usage
import CommandShell.Node.Walk
import CommandShell.Program.Files
import CommandShell.Program.Json
import CommandShell.Program.Run
import CommandShell.Program.Script
import CommandShell.Proofs.Cursor
import CommandShell.Registry
import CommandShell.Sender
import CommandShell.Settings.Basic
import CommandShell.Settings.File
import CommandShell.Shell.Completeness
import CommandShell.Shell.Highlight
import CommandShell.Shell.Hint
import CommandShell.Shell.History
import CommandShell.Shell.Menu
import CommandShell.Shell.Paint
import CommandShell.Shell.Prompt
import CommandShell.Shell.Session
import CommandShell.Suggestion.Basic
import CommandShell.Suggestion.Batch
import CommandShell.Suggestion.Span
import CommandShell.Suggestion.Suggester
import CommandShell.Text.Blank
import CommandShell.Text.CodePoints
import CommandShell.Text.Lowercase
import CommandShell.Text.Offset
import CommandShell.Text.Quotation
import CommandShell.Text.Quoted
import CommandShell.Text.Record
import CommandShell.Text.Table.CaseIgnorable
import CommandShell.Text.Table.Cased
import CommandShell.Text.Table.Escaped
import CommandShell.Text.Table.LowercaseRuns
import CommandShell.Toml.Quoting
import CommandShell.Toml.Reader
import CommandShell.Toml.Scalar
import CommandShell.Toml.Text
import CommandShell.Toml.Value
import CommandShell.Toml.Writer
import CommandShell.World.Basic
import CommandShell.World.Commands
import CommandShell.World.Flags
import CommandShell.World.Guide
import CommandShell.World.Players
import CommandShell.World.Roster
import CommandShell.Proofs.Quotation
import CommandShell.Proofs.Reading
import CommandShell.Proofs.Route
import CommandShell.Proofs.Transport
import CommandShell.Proofs.Walk
import CommandShell.Proofs.Answer
import CommandShell.Proofs.Batch
import CommandShell.Proofs.Offer
import CommandShell.Proofs.Suggestion
import CommandShell.Proofs.Completion
import CommandShell.Proofs.Registry
import CommandShell.Proofs.Acceptance
import CommandShell.Proofs.Agreement
import CommandShell.Proofs.Pruning
import CommandShell.Proofs.Discovery
import CommandShell.Proofs.Registration
import CommandShell.Proofs.Concealment
import CommandShell.Proofs.Gathering
import CommandShell.Proofs.Respacing
import CommandShell.Proofs.Displacement
import CommandShell.Proofs.Relabelling
import CommandShell.Proofs.Stability
import CommandShell.Proofs.Boundary
import CommandShell.Proofs.Replacement
import CommandShell.Proofs.Arrangement
import CommandShell.Proofs.Words
import CommandShell.Proofs.Act
import CommandShell.Proofs.View
import CommandShell.Proofs.Standard
import CommandShell.Proofs.Turn
import CommandShell.Proofs.Grammar
import CommandShell.Proofs.Typing
import CommandShell.Proofs.Site
import CommandShell.Proofs.Documentation
import CommandShell.Proofs.Labels
import CommandShell.Proofs.WellFormed
import CommandShell.Proofs.Canonical
import CommandShell.Proofs.Completeness
import CommandShell.Proofs.Numeral
import CommandShell.Proofs.Nearest
import CommandShell.Proofs.Rounding
import CommandShell.Proofs.Decimal
import CommandShell.Proofs.Stuck
import CommandShell.Proofs.Permission
import CommandShell.Proofs.Hint
import CommandShell.Proofs.Slot
import CommandShell.Proofs.Undo
import CommandShell.Proofs.Highlight
import CommandShell.Proofs.Validity
import CommandShell.Proofs.Display
import CommandShell.Proofs.Attempt
import CommandShell.Proofs.Place
