import TestAmplification.Amplification.Document
import TestAmplification.Amplification.Event
import TestAmplification.Amplification.Loop
import TestAmplification.Amplification.Workshop
import TestAmplification.Config.Basic
import TestAmplification.Config.Document
import TestAmplification.Config.Load
import TestAmplification.Config.Summary
import TestAmplification.Duration
import TestAmplification.Failure
import TestAmplification.Failure.Document
import TestAmplification.Files.Disk
import TestAmplification.Files.Document
import TestAmplification.Files.Path
import TestAmplification.Files.Tree
import TestAmplification.Genealogy
import TestAmplification.Json.Printer
import TestAmplification.Json.Reader
import TestAmplification.Json.Record
import TestAmplification.Json.Syntax
import TestAmplification.Mutant
import TestAmplification.Mutant.KillingTest
import TestAmplification.Mutant.Report
import TestAmplification.Proofs.Amplification.Accounting
import TestAmplification.Proofs.Amplification.AddedTests
import TestAmplification.Proofs.Amplification.Advance
import TestAmplification.Proofs.Amplification.DecisionRule
import TestAmplification.Proofs.Amplification.EmittedTests
import TestAmplification.Proofs.Amplification.Expansion
import TestAmplification.Proofs.Amplification.GreenSeeds
import TestAmplification.Proofs.Amplification.KeptTests
import TestAmplification.Proofs.Amplification.Lineage
import TestAmplification.Proofs.Amplification.LoopRule
import TestAmplification.Proofs.Amplification.Narrowing
import TestAmplification.Proofs.Amplification.OwnRight
import TestAmplification.Proofs.Amplification.Preflight
import TestAmplification.Proofs.Amplification.Records
import TestAmplification.Proofs.Amplification.Rounds
import TestAmplification.Proofs.Amplification.Steps
import TestAmplification.Proofs.Amplification.SuiteBoundary
import TestAmplification.Proofs.Config.Document
import TestAmplification.Proofs.Config.Fields
import TestAmplification.Proofs.Config.Layers
import TestAmplification.Proofs.Files.Changes
import TestAmplification.Proofs.Files.Lexical
import TestAmplification.Proofs.Files.Linked
import TestAmplification.Proofs.Files.Locality
import TestAmplification.Proofs.Files.Paths
import TestAmplification.Proofs.Files.Plain
import TestAmplification.Proofs.Files.Views
import TestAmplification.Proofs.Files.WellKept
import TestAmplification.Proofs.Genealogy.Additions
import TestAmplification.Proofs.Genealogy.Ancestry
import TestAmplification.Proofs.Genealogy.AnyOrder
import TestAmplification.Proofs.Genealogy.Recording
import TestAmplification.Proofs.Genealogy.Rooted
import TestAmplification.Proofs.Genealogy.Walks
import TestAmplification.Proofs.Json.Grammar
import TestAmplification.Proofs.Json.Layout
import TestAmplification.Proofs.Mutant.KillingTest
import TestAmplification.Proofs.Mutant.ParameterizedTest
import TestAmplification.Proofs.Mutant.Report
import TestAmplification.Proofs.Mutant.ReportFile
import TestAmplification.Proofs.Positions
import TestAmplification.Proofs.Selection.Counting
import TestAmplification.Proofs.Selection.Credits
import TestAmplification.Proofs.Selection.Decisive
import TestAmplification.Proofs.Selection.FailedOperations
import TestAmplification.Proofs.Selection.Granted
import TestAmplification.Proofs.Selection.LifeCycle
import TestAmplification.Proofs.Selection.LineageCredit
import TestAmplification.Proofs.Selection.ReportFiles
import TestAmplification.Proofs.Selection.Session
import TestAmplification.Proofs.Selection.Steps
import TestAmplification.Proofs.Table
import TestAmplification.Proofs.Test.Document
import TestAmplification.Proofs.Test.Extension
import TestAmplification.Proofs.Test.Identity
import TestAmplification.Proofs.Test.Reduction
import TestAmplification.Proofs.Text.Decimal
import TestAmplification.Proofs.Text.Lines
import TestAmplification.Proofs.Text.Scan
import TestAmplification.Proofs.Text.Search
import TestAmplification.Proofs.Toml.Sections
import TestAmplification.Proofs.Toml.Texts
import TestAmplification.Proofs.Toml.Values
import TestAmplification.Proofs.Tooling.AnalysisSteps
import TestAmplification.Proofs.Tooling.HandedPaths
import TestAmplification.Proofs.Tooling.Interleaving
import TestAmplification.Proofs.Tooling.PlacedSuites
import TestAmplification.Proofs.Tooling.ReportDirectories
import TestAmplification.Proofs.Tooling.RunnerReport
import TestAmplification.Proofs.Tooling.Templates
import TestAmplification.Rehearsal.Bench
import TestAmplification.Rehearsal.Stage
import TestAmplification.Selection.Configured
import TestAmplification.Selection.Document
import TestAmplification.Selection.KillReport
import TestAmplification.Selection.MutationScore
import TestAmplification.Selection.Selector
import TestAmplification.Shell.Launch
import TestAmplification.Shell.Machine.Act
import TestAmplification.Shell.Machine.Basic
import TestAmplification.Shell.Machine.Programs
import TestAmplification.Shell.Machine.Search
import TestAmplification.Shell.Row
import TestAmplification.Shell.Script.Arithmetic
import TestAmplification.Shell.Script.Builtin
import TestAmplification.Shell.Script.Directory
import TestAmplification.Shell.Script.Elements
import TestAmplification.Shell.Script.Expansion
import TestAmplification.Shell.Script.Extended.Assignments
import TestAmplification.Shell.Script.Extended.Braces
import TestAmplification.Shell.Script.Extended.Conditions
import TestAmplification.Shell.Script.Extended.Declaring
import TestAmplification.Shell.Script.Extended.Leaving
import TestAmplification.Shell.Script.Extended.Parameters
import TestAmplification.Shell.Script.Extended.Reading
import TestAmplification.Shell.Script.Extended.Reckoning
import TestAmplification.Shell.Script.Extended.Tasks
import TestAmplification.Shell.Script.Extended.Values
import TestAmplification.Shell.Script.Grammar
import TestAmplification.Shell.Script.Jobs
import TestAmplification.Shell.Script.Names
import TestAmplification.Shell.Script.Pattern
import TestAmplification.Shell.Script.Processes
import TestAmplification.Shell.Script.Run
import TestAmplification.Shell.Script.Session
import TestAmplification.Shell.Script.Simple
import TestAmplification.Shell.Script.Start
import TestAmplification.Shell.Script.State
import TestAmplification.Shell.Script.Syntax
import TestAmplification.Shell.Script.Tokens
import TestAmplification.Shell.Script.Variables
import TestAmplification.Shell.Script.Words
import TestAmplification.Shell.Script.Writing
import TestAmplification.Shell.Utility.Awk
import TestAmplification.Shell.Utility.Awk.Formats
import TestAmplification.Shell.Utility.Awk.Grammar
import TestAmplification.Shell.Utility.Awk.Memory
import TestAmplification.Shell.Utility.Awk.Run
import TestAmplification.Shell.Utility.Awk.State
import TestAmplification.Shell.Utility.Awk.Syntax
import TestAmplification.Shell.Utility.Awk.Value
import TestAmplification.Shell.Utility.Calendar
import TestAmplification.Shell.Utility.Characters
import TestAmplification.Shell.Utility.Columns
import TestAmplification.Shell.Utility.Comparing
import TestAmplification.Shell.Utility.Decimal
import TestAmplification.Shell.Utility.Diff
import TestAmplification.Shell.Utility.Digests
import TestAmplification.Shell.Utility.Dump
import TestAmplification.Shell.Utility.Escape
import TestAmplification.Shell.Utility.Expr
import TestAmplification.Shell.Utility.Files.Find
import TestAmplification.Shell.Utility.Files.Listing
import TestAmplification.Shell.Utility.Files.Making
import TestAmplification.Shell.Utility.Files.Modes
import TestAmplification.Shell.Utility.Files.Transfer
import TestAmplification.Shell.Utility.Format
import TestAmplification.Shell.Utility.Grep
import TestAmplification.Shell.Utility.Identity
import TestAmplification.Shell.Utility.Launching
import TestAmplification.Shell.Utility.Options
import TestAmplification.Shell.Utility.Passing
import TestAmplification.Shell.Utility.Paths
import TestAmplification.Shell.Utility.Quoting
import TestAmplification.Shell.Utility.Regex
import TestAmplification.Shell.Utility.Sed
import TestAmplification.Shell.Utility.Sed.Script
import TestAmplification.Shell.Utility.Sequence
import TestAmplification.Shell.Utility.Sort
import TestAmplification.Shell.Utility.Status
import TestAmplification.Shell.Utility.Test
import TestAmplification.Shell.Utility.Tool
import TestAmplification.Shell.Utility.Xargs
import TestAmplification.Table
import TestAmplification.Test.Document
import TestAmplification.Test.Identity
import TestAmplification.Test.Result
import TestAmplification.Test.Suite
import TestAmplification.Text.Decimal
import TestAmplification.Text.Digest
import TestAmplification.Text.Lines
import TestAmplification.Text.Scan
import TestAmplification.Text.Search
import TestAmplification.Text.Shown
import TestAmplification.Text.Utf8
import TestAmplification.Toml.Document
import TestAmplification.Toml.Printer
import TestAmplification.Toml.Reader
import TestAmplification.Toml.Scalar
import TestAmplification.Tooling.Launch
import TestAmplification.Tooling.MutationTool
import TestAmplification.Tooling.SuiteCompiler
import TestAmplification.Tooling.SuiteFile
import TestAmplification.Tooling.TestRunner
import TestAmplification.Tooling.Toolchain
