import PatternNfa.Automaton.Acceptance
import PatternNfa.Automaton.Basic
import PatternNfa.Automaton.Closure
import PatternNfa.Automaton.Dump
import PatternNfa.Automaton.Expression
import PatternNfa.Automaton.Kleene
import PatternNfa.Automaton.Parts
import PatternNfa.Automaton.StateSet
import PatternNfa.Automaton.Symbol
import PatternNfa.Batch.Basic
import PatternNfa.Batch.Verdicts
import PatternNfa.CharClass.Basic
import PatternNfa.CharClass.Runs
import PatternNfa.CommandLine.Arguments
import PatternNfa.CommandLine.Commands
import PatternNfa.CommandLine.Directory
import PatternNfa.CommandLine.Execution
import PatternNfa.CommandLine.Sources
import PatternNfa.Main
import PatternNfa.Pattern.Basic
import PatternNfa.Pattern.Error
import PatternNfa.Pattern.Expansion
import PatternNfa.Pattern.Machine
import PatternNfa.Pattern.Reading
import PatternNfa.Pattern.Required
import PatternNfa.Proofs.Automaton.Acceptance
import PatternNfa.Proofs.Automaton.Built
import PatternNfa.Proofs.Automaton.Closure
import PatternNfa.Proofs.Automaton.Counting
import PatternNfa.Proofs.Automaton.Dump
import PatternNfa.Proofs.Automaton.Embedding
import PatternNfa.Proofs.Automaton.Expression
import PatternNfa.Proofs.Automaton.Extension
import PatternNfa.Proofs.Automaton.Invariant
import PatternNfa.Proofs.Automaton.Isolation
import PatternNfa.Proofs.Automaton.Kleene
import PatternNfa.Proofs.Automaton.LeastClosed
import PatternNfa.Proofs.Automaton.Numbering
import PatternNfa.Proofs.Automaton.PartSets
import PatternNfa.Proofs.Automaton.Parts
import PatternNfa.Proofs.Automaton.Path
import PatternNfa.Proofs.Automaton.Representation
import PatternNfa.Proofs.Automaton.Rounds
import PatternNfa.Proofs.Automaton.Simulation
import PatternNfa.Proofs.Automaton.Transitions
import PatternNfa.Proofs.Automaton.Trim
import PatternNfa.Proofs.Automaton.WellFormed
import PatternNfa.Proofs.Batch.Basic
import PatternNfa.Proofs.Batch.Layout
import PatternNfa.Proofs.Batch.Lines
import PatternNfa.Proofs.Batch.Verdicts
import PatternNfa.Proofs.CharClass.Texts
import PatternNfa.Proofs.CommandLine.Agreement
import PatternNfa.Proofs.CommandLine.Commands
import PatternNfa.Proofs.CommandLine.Inputs
import PatternNfa.Proofs.CommandLine.Messages
import PatternNfa.Proofs.CommandLine.Reports
import PatternNfa.Proofs.CommandLine.Running
import PatternNfa.Proofs.CommandLine.Testing
import PatternNfa.Proofs.Pattern.Alternatives
import PatternNfa.Proofs.Pattern.Assembly
import PatternNfa.Proofs.Pattern.Bounds
import PatternNfa.Proofs.Pattern.Calls
import PatternNfa.Proofs.Pattern.Completion
import PatternNfa.Proofs.Pattern.Denotation
import PatternNfa.Proofs.Pattern.ErrorPlaces
import PatternNfa.Proofs.Pattern.Faults
import PatternNfa.Proofs.Pattern.Forms
import PatternNfa.Proofs.Pattern.Grammar
import PatternNfa.Proofs.Pattern.Positions
import PatternNfa.Proofs.Pattern.Sequences
import PatternNfa.Proofs.Pattern.Size
import PatternNfa.Proofs.Pattern.Trim
import PatternNfa.Proofs.Text.Count
import PatternNfa.Proofs.Text.Delimited
import PatternNfa.Proofs.Text.Fields
import PatternNfa.Proofs.Text.Padding
import PatternNfa.Proofs.Text.Reader
import PatternNfa.Proofs.Text.Words
import PatternNfa.Proofs.Workbench.Sessions
import PatternNfa.Text.Count
import PatternNfa.Text.Quoted
import PatternNfa.Text.Reader
import PatternNfa.Text.Split
import PatternNfa.Unicode.Alphabetic
import PatternNfa.Unicode.CodeRanges
import PatternNfa.Unicode.DefaultIgnorable
import PatternNfa.Unicode.GraphemeExtend
import PatternNfa.Unicode.Numeric
import PatternNfa.Unicode.Printable
import PatternNfa.Unicode.WhiteSpace
import PatternNfa.Workbench.Basic
import PatternNfa.Workbench.Edit
