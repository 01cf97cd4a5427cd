import LineShell.Main
import LineShell.Proofs.Text.Utf8
import LineShell.Proofs.Expansion.Names
import LineShell.Proofs.Expansion.Scan
import LineShell.Proofs.Expansion.Lines
import LineShell.Proofs.Expansion.Template
import LineShell.Proofs.Expansion.Errors
import LineShell.Proofs.Expansion.References
import LineShell.Proofs.Expansion.Quotation
import LineShell.Proofs.Expansion.Renderings
import LineShell.Proofs.Pipeline.Stages
import LineShell.Proofs.Pipeline.Grammar
import LineShell.Proofs.Pipeline.RoundTrip
import LineShell.Proofs.Options.Arguments
import LineShell.Proofs.Builtin.Selection
import LineShell.Proofs.Stage.Bars
import LineShell.Proofs.Session.Eval
import LineShell.Proofs.Session.Scope
import LineShell.Proofs.Builtin.Sources
import LineShell.Proofs.Session.Variables
import LineShell.Proofs.Session.Reading
import LineShell.Proofs.Session.Completion
import LineShell.Proofs.Session.Unreferenced
import LineShell.Proofs.Session.QuotedWords
import LineShell.Proofs.Repl.Groups
import LineShell.Proofs.CommandLine.FrontEnds
import LineShell.Proofs.Session.PassedOn
import LineShell.Proofs.Lookup.Exact
import LineShell.Proofs.Options.Groups
import LineShell.Proofs.Options.RoundTrip
import LineShell.Proofs.Builtin.WholeWords
import LineShell.Proofs.Builtin.Operands
import LineShell.Proofs.Lookup.Separators
import LineShell.Proofs.Builtin.Filters
import LineShell.Proofs.Repl.BrokenInput
import LineShell.Proofs.Expansion.Chains
import LineShell.Proofs.Session.Names
import LineShell.Proofs.Scope.BindingOrder
import LineShell.Proofs.Text.Blanks
import LineShell.Proofs.Text.IllFormed
import LineShell.Proofs.Stage.Copies
import LineShell.Proofs.Builtin.Counts
import LineShell.Proofs.Pattern.Dialect
import LineShell.Proofs.Stage.Faults
