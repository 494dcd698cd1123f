import CompileTree.Batch
import CompileTree.Batch.Schedule
import CompileTree.CommandLine
import CompileTree.CommandLine.Grammar
import CompileTree.CommandLine.Request
import CompileTree.CommandList
import CompileTree.CommandList.Stored
import CompileTree.Compiler
import CompileTree.Compiler.Discovery
import CompileTree.Execution
import CompileTree.Failure
import CompileTree.Files.Change
import CompileTree.Files.Tree
import CompileTree.Files.Error
import CompileTree.Files.Listing
import CompileTree.Files.Lookup
import CompileTree.Files.Mode
import CompileTree.Files.Walk
import CompileTree.Filter
import CompileTree.Generation
import CompileTree.Glob
import CompileTree.Glob.Regex
import CompileTree.Include.Directive
import CompileTree.Include.Walk
import CompileTree.Invocation
import CompileTree.Json
import CompileTree.Launch
import CompileTree.Log
import CompileTree.Log.SipHash
import CompileTree.Machine
import CompileTree.Path
import CompileTree.Path.Normal
import CompileTree.Path.Table
import CompileTree.Survey
import CompileTree.Settings
import CompileTree.Settings.InForce
import CompileTree.Settings.Stored
import CompileTree.Shell.Act
import CompileTree.Shell.Arithmetic
import CompileTree.Shell.Builtin
import CompileTree.Shell.Builtin.Arguments
import CompileTree.Shell.Builtin.Flow
import CompileTree.Shell.Builtin.Output
import CompileTree.Shell.Builtin.Places
import CompileTree.Shell.Builtin.Variables
import CompileTree.Shell.Commands
import CompileTree.Shell.Condition
import CompileTree.Shell.Engine
import CompileTree.Shell.Expansion
import CompileTree.Shell.Extended.Assigning
import CompileTree.Shell.Extended.Braces
import CompileTree.Shell.Extended.Builtin
import CompileTree.Shell.Extended.Builtin.Arguments
import CompileTree.Shell.Extended.Builtin.Candidates
import CompileTree.Shell.Extended.Builtin.Declaring
import CompileTree.Shell.Extended.Builtin.Flow
import CompileTree.Shell.Extended.Builtin.Kinds
import CompileTree.Shell.Extended.Builtin.Options
import CompileTree.Shell.Extended.Builtin.Places
import CompileTree.Shell.Extended.Builtin.Reading
import CompileTree.Shell.Extended.Builtin.Signals
import CompileTree.Shell.Extended.Calculation
import CompileTree.Shell.Extended.Calling
import CompileTree.Shell.Extended.Commands
import CompileTree.Shell.Extended.Conditions
import CompileTree.Shell.Extended.Escapes
import CompileTree.Shell.Extended.Expansion
import CompileTree.Shell.Extended.Formats
import CompileTree.Shell.Extended.Globs
import CompileTree.Shell.Extended.Invocation
import CompileTree.Shell.Extended.Jobs
import CompileTree.Shell.Extended.Lines
import CompileTree.Shell.Extended.Pathnames
import CompileTree.Shell.Extended.Printing
import CompileTree.Shell.Extended.Quoting
import CompileTree.Shell.Extended.Reader
import CompileTree.Shell.Extended.Redirecting
import CompileTree.Shell.Extended.Running
import CompileTree.Shell.Extended.Source
import CompileTree.Shell.Extended.State
import CompileTree.Shell.Extended.Syntax
import CompileTree.Shell.Extended.Tokens
import CompileTree.Shell.Extended.Values
import CompileTree.Shell.Extended.Variables
import CompileTree.Shell.Extended.Words
import CompileTree.Shell.Floating
import CompileTree.Shell.Formatted
import CompileTree.Shell.Invocation
import CompileTree.Shell.OpenFiles
import CompileTree.Shell.Pattern
import CompileTree.Shell.Process
import CompileTree.Shell.Program
import CompileTree.Shell.Records.Evaluation
import CompileTree.Shell.Records.Functions
import CompileTree.Shell.Records.Patterns
import CompileTree.Shell.Records.Reader
import CompileTree.Shell.Records.State
import CompileTree.Shell.Records.Streams
import CompileTree.Shell.Records.Syntax
import CompileTree.Shell.Records.Table
import CompileTree.Shell.Records.Tokens
import CompileTree.Shell.Records.Value
import CompileTree.Shell.Run
import CompileTree.Shell.Script
import CompileTree.Shell.Script.Reader
import CompileTree.Shell.Script.Words
import CompileTree.Shell.Script.Tokens
import CompileTree.Shell.Session
import CompileTree.Shell.Signal
import CompileTree.Shell.System
import CompileTree.Shell.Utility
import CompileTree.Shell.Utility.Answers
import CompileTree.Shell.Utility.Archives
import CompileTree.Shell.Utility.Blocks
import CompileTree.Shell.Utility.Calls
import CompileTree.Shell.Utility.Characters
import CompileTree.Shell.Utility.Columns
import CompileTree.Shell.Utility.Copies
import CompileTree.Shell.Utility.Counting
import CompileTree.Shell.Utility.Dates
import CompileTree.Shell.Utility.Differences
import CompileTree.Shell.Utility.Digests
import CompileTree.Shell.Utility.Dumps
import CompileTree.Shell.Utility.Editing
import CompileTree.Shell.Utility.Editor
import CompileTree.Shell.Utility.Evaluation
import CompileTree.Shell.Utility.Extracts
import CompileTree.Shell.Utility.Finding
import CompileTree.Shell.Utility.Grouping
import CompileTree.Shell.Utility.InputArguments
import CompileTree.Shell.Utility.Listings
import CompileTree.Shell.Utility.Matching
import CompileTree.Shell.Utility.Names
import CompileTree.Shell.Utility.Numbers
import CompileTree.Shell.Utility.Options
import CompileTree.Shell.Utility.Orders
import CompileTree.Shell.Utility.Permuted
import CompileTree.Shell.Utility.Places
import CompileTree.Shell.Utility.Records
import CompileTree.Shell.Utility.Regex
import CompileTree.Shell.Utility.RichRegex
import CompileTree.Shell.Utility.Showing
import CompileTree.Shell.Utility.Sorting
import CompileTree.Shell.Utility.Streams
import CompileTree.Shell.Utility.Walking
import CompileTree.Shell.Words
import CompileTree.Shell.Workplace
import CompileTree.SourceKind
import CompileTree.SuffixIndex
import CompileTree.Synthesis
import CompileTree.SystemIncludes
import CompileTree.Text.Lines
import CompileTree.Text.Utf8
import CompileTree.Text.Deflate
import CompileTree.Text.Difference
import CompileTree.Text.Digest
import CompileTree.Text.Hex
import CompileTree.Text.LowerCase
import CompileTree.Text.NameSet
import CompileTree.Text.Shown
import CompileTree.Toml
import CompileTree.Toml.Reader
import CompileTree.Toml.Scalars
import CompileTree.Toml.Strings
import CompileTree.Main
import CompileTree.Proofs.Glob.Alternatives
import CompileTree.Proofs.Filter.Verdict
import CompileTree.Proofs.Filter.Root
import CompileTree.Proofs.Include.Directive
import CompileTree.Proofs.Include.Walk
import CompileTree.Proofs.Include.Rounds
import CompileTree.Proofs.SuffixIndex.Lookup
import CompileTree.Proofs.Shell.Quoting
import CompileTree.Proofs.Json.Spelling
import CompileTree.Proofs.CommandList.Persistence
import CompileTree.Proofs.Files.Walk
import CompileTree.Proofs.Survey
import CompileTree.Proofs.Survey.SearchDirectories
import CompileTree.Proofs.Survey.Spelling
import CompileTree.Proofs.Batch.Schedule
import CompileTree.Proofs.Batch.Sequence
import CompileTree.Proofs.SystemIncludes
import CompileTree.Proofs.Survey.Order
import CompileTree.Proofs.Files.Change
import CompileTree.Proofs.Log
import CompileTree.Proofs.Execution
import CompileTree.Proofs.Generation
import CompileTree.Proofs.Compiler
import CompileTree.Proofs.Survey.Outputs
