import ChrootScan.Analyzer
import ChrootScan.Analyzer.Clang
import ChrootScan.Analyzer.Clippy
import ChrootScan.Analyzer.Cppcheck
import ChrootScan.Analyzer.Dynamic
import ChrootScan.Analyzer.Gcc
import ChrootScan.Analyzer.Gitleaks
import ChrootScan.Analyzer.Infer
import ChrootScan.Analyzer.Listing
import ChrootScan.Analyzer.Order
import ChrootScan.Analyzer.Registry
import ChrootScan.Analyzer.Scripts
import ChrootScan.Analyzer.Semgrep
import ChrootScan.Analyzer.Smatch
import ChrootScan.Analyzer.Snyk
import ChrootScan.Analyzer.Steps
import ChrootScan.Analyzer.Unicontrol
import ChrootScan.Archive
import ChrootScan.Archive.Gzip
import ChrootScan.Archive.Kind
import ChrootScan.Archive.Tar
import ChrootScan.Chroot
import ChrootScan.Chroot.Run
import ChrootScan.Clock
import ChrootScan.CommandLine
import ChrootScan.CommandLine.Grammar
import ChrootScan.CompilerFlags
import ChrootScan.Dict
import ChrootScan.Failure
import ChrootScan.FileTree
import ChrootScan.Findings
import ChrootScan.Hook
import ChrootScan.Hook.Basic
import ChrootScan.Hook.Download
import ChrootScan.Hook.Run
import ChrootScan.Host
import ChrootScan.Json
import ChrootScan.Json.Reader
import ChrootScan.Json.Writer
import ChrootScan.Machine
import ChrootScan.Machine.Script
import ChrootScan.Machine.Scripted
import ChrootScan.Main
import ChrootScan.Path
import ChrootScan.Pattern
import ChrootScan.Pattern.Reader
import ChrootScan.Pipeline
import ChrootScan.Plan
import ChrootScan.Program
import ChrootScan.Record
import ChrootScan.Report.Clippy
import ChrootScan.Report.Infer
import ChrootScan.Report.UnicodeControl
import ChrootScan.Rpm
import ChrootScan.Settings
import ChrootScan.Shell.Command
import ChrootScan.Shell.Quote
import ChrootScan.Shell.Words
import ChrootScan.Text.Blank
import ChrootScan.Text.Case
import ChrootScan.Text.Decimal
import ChrootScan.Text.Digit
import ChrootScan.Text.Fields
import ChrootScan.Text.ShortestFloat
import ChrootScan.Text.Shown
import ChrootScan.Text.Utf8
import ChrootScan.Text.Word
import ChrootScan.Proofs.Effect
import ChrootScan.Proofs.Traversal
import ChrootScan.Proofs.Machine
import ChrootScan.Proofs.FileTree
import ChrootScan.Proofs.Order.Sweep
import ChrootScan.Proofs.Order.Arrangement
import ChrootScan.Proofs.Text.Parts
import ChrootScan.Proofs.Text.Fields
import ChrootScan.Proofs.Path
import ChrootScan.Proofs.FileTree.NewDirectory
import ChrootScan.Proofs.FileTree.Writing
import ChrootScan.Proofs.Shell.Words
import ChrootScan.Proofs.Shell.DoubleQuotes
import ChrootScan.Proofs.Record.Signals
import ChrootScan.Proofs.Record.Metadata
import ChrootScan.Proofs.Record.Layout
import ChrootScan.Proofs.Record.Commands
import ChrootScan.Proofs.Record.Aborting
import ChrootScan.Proofs.Record.Ledger
import ChrootScan.Proofs.Record.Reading
import ChrootScan.Proofs.Record.Calm
import ChrootScan.Proofs.Setup.Edits
import ChrootScan.Proofs.Setup.Analyzers
import ChrootScan.Proofs.Setup.Configuration
import ChrootScan.Proofs.Record.Routine
import ChrootScan.Proofs.Machine.Scripted
import ChrootScan.Proofs.Pipeline.Onward
import ChrootScan.Proofs.Pipeline.Routine
import ChrootScan.Proofs.Pipeline.Cleaning
import ChrootScan.Proofs.Hook.Routine
import ChrootScan.Proofs.Hook.Download
import ChrootScan.Proofs.Hook.PostProcess
import ChrootScan.Proofs.Pipeline.Stages
import ChrootScan.Proofs.Pipeline.BuildRoot
import ChrootScan.Proofs.Pipeline.Turns
import ChrootScan.Proofs.Pipeline.Reports
import ChrootScan.Proofs.Pipeline.PhaseOrder
import ChrootScan.Proofs.Pipeline.Accounts
import ChrootScan.Proofs.Program.ExitCode
import ChrootScan.Proofs.Shell.Pieces
import ChrootScan.Proofs.Shell.Sanitized
import ChrootScan.Proofs.Pipeline.BuildCommands
import ChrootScan.Proofs.Dict
import ChrootScan.Proofs.Order.Cycles
import ChrootScan.Proofs.Order.Permuted
import ChrootScan.Proofs.Setup.Selection
import ChrootScan.Proofs.Setup.Watchers
import ChrootScan.Proofs.Flags.Writing
import ChrootScan.Proofs.Setup.SearchPath
import ChrootScan.Proofs.Hook.InlineAnalyzer
import ChrootScan.Proofs.Setup.Packages
import ChrootScan.Proofs.Setup.Wrapped
import ChrootScan.Proofs.Shell.Tokens
import ChrootScan.Proofs.Findings.Words
import ChrootScan.Proofs.Shell.Grammar
import ChrootScan.Proofs.Record.Undisturbed
import ChrootScan.Proofs.Record.Passing
import ChrootScan.Proofs.Hook.TokenRemoval
import ChrootScan.Proofs.Text.Utf8
import ChrootScan.Proofs.Report.HiddenCharacters
import ChrootScan.Proofs.Shell.Continuation
import ChrootScan.Proofs.Flags.WritingTwice
import ChrootScan.Proofs.Shell.Room
import ChrootScan.Proofs.Flags.Options
import ChrootScan.Proofs.Report.Positions
import ChrootScan.Proofs.Report.WiderSets
import ChrootScan.Proofs.Text.Cuts
import ChrootScan.Proofs.Text.Blanks
import ChrootScan.Proofs.Report.TestDirectories
import ChrootScan.Proofs.Report.Conversion
import ChrootScan.Proofs.Report.Packages
import ChrootScan.Proofs.Report.Diagnostics
import ChrootScan.Proofs.Text.Paragraphs
import ChrootScan.Proofs.Members
import ChrootScan.Proofs.Report.Blocks
import ChrootScan.Proofs.Report.PackageRoots
import ChrootScan.Proofs.Report.FalseAlarms
import ChrootScan.Proofs.Hook.InstalledVersion
import ChrootScan.Proofs.Rpm.SourcePackage
import ChrootScan.Proofs.Findings.Merging
import ChrootScan.Proofs.Findings.KnownFalsePositives
import ChrootScan.Proofs.Archive.Kind
import ChrootScan.Proofs.Record.TopDirectory
import ChrootScan.Proofs.Order.Degrees
import ChrootScan.Proofs.Report.Coverage
