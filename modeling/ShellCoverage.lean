import ShellCoverage.CommandLine.Answer
import ShellCoverage.CommandLine.Request
import ShellCoverage.Coverage.Counts
import ShellCoverage.Decimal.Literal
import ShellCoverage.Decimal.Shortest
import ShellCoverage.Failure
import ShellCoverage.FileSystem.Lookup
import ShellCoverage.FileSystem.Node
import ShellCoverage.FileSystem.Path
import ShellCoverage.FileSystem.Update
import ShellCoverage.Instances
import ShellCoverage.Json.Arithmetic
import ShellCoverage.Json.Reader
import ShellCoverage.Json.Value
import ShellCoverage.Json.Writer
import ShellCoverage.Log
import ShellCoverage.Main
import ShellCoverage.Proofs.Coverage.Arrays
import ShellCoverage.Proofs.Coverage.Calls
import ShellCoverage.Proofs.Coverage.Counts
import ShellCoverage.Proofs.FileSystem.Canonical
import ShellCoverage.Proofs.FileSystem.Leads
import ShellCoverage.Proofs.FileSystem.Spelling
import ShellCoverage.Proofs.FileSystem.Tree
import ShellCoverage.Proofs.Report.Combine
import ShellCoverage.Proofs.Report.Handoff
import ShellCoverage.Proofs.Table
import ShellCoverage.Proofs.Text.DecimalDigits
import ShellCoverage.Proofs.Text.Lines
import ShellCoverage.Proofs.Text.Occurrence
import ShellCoverage.Proofs.Text.Utf8
import ShellCoverage.Proofs.Trace.Continuation
import ShellCoverage.Proofs.Trace.Counting
import ShellCoverage.Proofs.Trace.Failing
import ShellCoverage.Proofs.Trace.Interleaving
import ShellCoverage.Proofs.Trace.Pieces
import ShellCoverage.Proofs.Trace.Prompt
import ShellCoverage.Proofs.Trace.Quotes
import ShellCoverage.Proofs.Trace.Transcript
import ShellCoverage.Report.Combine
import ShellCoverage.Report.Console
import ShellCoverage.Report.Handoff
import ShellCoverage.Report.ResultSet
import ShellCoverage.Script.Discovery
import ShellCoverage.Script.Relevance
import ShellCoverage.Shell.Arithmetic
import ShellCoverage.Shell.Arithmetic.Plain
import ShellCoverage.Shell.Assignment
import ShellCoverage.Shell.Builtin.Basic
import ShellCoverage.Shell.Builtin.Completion
import ShellCoverage.Shell.Builtin.Control
import ShellCoverage.Shell.Builtin.Directories
import ShellCoverage.Shell.Builtin.Input
import ShellCoverage.Shell.Builtin.Jobs
import ShellCoverage.Shell.Builtin.Limits
import ShellCoverage.Shell.Builtin.Plain
import ShellCoverage.Shell.Builtin.Plain.Conditions
import ShellCoverage.Shell.Builtin.Plain.Signals
import ShellCoverage.Shell.Builtin.Settings
import ShellCoverage.Shell.Builtin.Variables
import ShellCoverage.Shell.Calendar
import ShellCoverage.Shell.Calendar.Phrase
import ShellCoverage.Shell.Charset
import ShellCoverage.Shell.Command
import ShellCoverage.Shell.Commands
import ShellCoverage.Shell.Completion
import ShellCoverage.Shell.Conditional
import ShellCoverage.Shell.Descriptor
import ShellCoverage.Shell.Expansion
import ShellCoverage.Shell.Expansion.Transform
import ShellCoverage.Shell.Expansion.Value
import ShellCoverage.Shell.Field
import ShellCoverage.Shell.Floating
import ShellCoverage.Shell.Glob
import ShellCoverage.Shell.Grammar
import ShellCoverage.Shell.Grammar.Basic
import ShellCoverage.Shell.Grammar.Compound
import ShellCoverage.Shell.Grammar.Expression
import ShellCoverage.Shell.Interpreter
import ShellCoverage.Shell.Invocation
import ShellCoverage.Shell.Launch
import ShellCoverage.Shell.Listing
import ShellCoverage.Shell.Machine
import ShellCoverage.Shell.Manual
import ShellCoverage.Shell.Manual.Control
import ShellCoverage.Shell.Manual.Keywords
import ShellCoverage.Shell.Manual.Names
import ShellCoverage.Shell.Manual.Settings
import ShellCoverage.Shell.Manual.Topic
import ShellCoverage.Shell.Menu
import ShellCoverage.Shell.Octets
import ShellCoverage.Shell.Parameter
import ShellCoverage.Shell.Parameters
import ShellCoverage.Shell.Pattern
import ShellCoverage.Shell.Printing
import ShellCoverage.Shell.Process
import ShellCoverage.Shell.Program.Basic
import ShellCoverage.Shell.Program.Columns
import ShellCoverage.Shell.Program.Comparing
import ShellCoverage.Shell.Program.Comparing.Changes
import ShellCoverage.Shell.Program.Copying
import ShellCoverage.Shell.Program.Digest
import ShellCoverage.Shell.Program.Editing
import ShellCoverage.Shell.Program.Editing.Reader
import ShellCoverage.Shell.Program.Editing.Script
import ShellCoverage.Shell.Program.Encoding
import ShellCoverage.Shell.Program.Expression
import ShellCoverage.Shell.Program.Feed
import ShellCoverage.Shell.Program.Files
import ShellCoverage.Shell.Program.Filling
import ShellCoverage.Shell.Program.Finding
import ShellCoverage.Shell.Program.Finding.Expression
import ShellCoverage.Shell.Program.Host
import ShellCoverage.Shell.Program.Input
import ShellCoverage.Shell.Program.Listing
import ShellCoverage.Shell.Program.Matching
import ShellCoverage.Shell.Program.Mode
import ShellCoverage.Shell.Program.Ordering
import ShellCoverage.Shell.Program.Pairing
import ShellCoverage.Shell.Program.Paths
import ShellCoverage.Shell.Program.Pieces
import ShellCoverage.Shell.Program.Rules
import ShellCoverage.Shell.Program.Rules.Channels
import ShellCoverage.Shell.Program.Rules.Evaluation
import ShellCoverage.Shell.Program.Rules.Lexer
import ShellCoverage.Shell.Program.Rules.Reader
import ShellCoverage.Shell.Program.Rules.Value
import ShellCoverage.Shell.Program.Rules.Workspace
import ShellCoverage.Shell.Program.Starting
import ShellCoverage.Shell.Program.Units
import ShellCoverage.Shell.Program.Values
import ShellCoverage.Shell.Prompt
import ShellCoverage.Shell.Quoting
import ShellCoverage.Shell.Reader
import ShellCoverage.Shell.Redirection
import ShellCoverage.Shell.Regex
import ShellCoverage.Shell.Regex.Reader
import ShellCoverage.Shell.Running
import ShellCoverage.Shell.Search
import ShellCoverage.Shell.Simple
import ShellCoverage.Shell.Start
import ShellCoverage.Shell.Testing
import ShellCoverage.Shell.Timing
import ShellCoverage.Shell.Tracing
import ShellCoverage.Shell.Variables
import ShellCoverage.Shell.World
import ShellCoverage.Table
import ShellCoverage.Text.CharacterClass
import ShellCoverage.Text.CodePoint
import ShellCoverage.Text.LetterCase
import ShellCoverage.Text.Numeral
import ShellCoverage.Text.Quoted
import ShellCoverage.Text.Utf8
import ShellCoverage.Trace.Collector
import ShellCoverage.Trace.Resolver
import ShellCoverage.Trace.Prompt
import ShellCoverage.Trace.Record
import ShellCoverage.Tracer.Child
import ShellCoverage.Tracer.Environment
import ShellCoverage.Tracer.Executable
import ShellCoverage.Tracer.Options
import ShellCoverage.Tracer.Run
import ShellCoverage.Tracer.StartupFile
import ShellCoverage.Tracer.Stream
import ShellCoverage.Proofs.Except
import ShellCoverage.Proofs.FileSystem.Components
import ShellCoverage.Proofs.Report.Contents
import ShellCoverage.Proofs.Script.Discovery
import ShellCoverage.Proofs.Json.Values
import ShellCoverage.Proofs.Json.RoundTrip
import ShellCoverage.Proofs.Json.Cut
import ShellCoverage.Proofs.Json.Printed
import ShellCoverage.Proofs.Json.Loaded
import ShellCoverage.Proofs.FileSystem.Directories
import ShellCoverage.Proofs.Report.ResultSet
import ShellCoverage.Proofs.Report.Stored
import ShellCoverage.Proofs.Report.History
import ShellCoverage.Proofs.Report.Columns
import ShellCoverage.Proofs.Report.Combined
import ShellCoverage.Proofs.Report.Counted
import ShellCoverage.Proofs.Report.Summary
import ShellCoverage.Proofs.FileSystem.Frame
import ShellCoverage.Proofs.CommandLine.Files
import ShellCoverage.Proofs.CommandLine.Status
import ShellCoverage.Proofs.CommandLine.Union
import ShellCoverage.Proofs.Trace.SharedStream
import ShellCoverage.Proofs.Text.Splitting
import ShellCoverage.Proofs.Trace.History
import ShellCoverage.Proofs.Trace.Grammar
import ShellCoverage.Proofs.Trace.Order
import ShellCoverage.Proofs.Script.Numbering
import ShellCoverage.Proofs.Script.Heredocs
import ShellCoverage.Proofs.Tracer.StartupFile
import ShellCoverage.Proofs.Tracer.Child
import ShellCoverage.Proofs.Script.Patterns
import ShellCoverage.Proofs.Script.Headers
