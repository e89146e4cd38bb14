import TextLimits.Check
import TextLimits.CommandLine.Override
import TextLimits.Settings.Source
import TextLimits.Tree.Edit
import TextLimits.Program
import TextLimits.Main
import TextLimits.Proofs.Text.Encoding
import TextLimits.Proofs.Inspection.Streaming
import TextLimits.Proofs.Inspection.Records
import TextLimits.Proofs.Inspection.LineEndings
import TextLimits.Proofs.Inspection.Validation
import TextLimits.Proofs.Tree.Walk
import TextLimits.Proofs.Tree.Way
import TextLimits.Proofs.Tree.Lexical
import TextLimits.Proofs.Path
import TextLimits.Proofs.Tree.Edit
import TextLimits.Proofs.Glob.Literal
import TextLimits.Proofs.Glob.Escape
import TextLimits.Proofs.Scan.Files
import TextLimits.Proofs.Scan.Base
import TextLimits.Proofs.Scan.Resolve
import TextLimits.Proofs.Scan.WholeWalk
import TextLimits.Proofs.Scan.Resolution
import TextLimits.Proofs.Scan.Joining
import TextLimits.Proofs.Scan.Naming
import TextLimits.Proofs.Scan.Escaping
import TextLimits.Proofs.Scan.SameFile
import TextLimits.Proofs.Scan.SelfExclusion
import TextLimits.Proofs.Scan.Filtering
import TextLimits.Proofs.Report
import TextLimits.Proofs.Report.Writing
import TextLimits.Proofs.Check
import TextLimits.Proofs.Check.FullOutputs
import TextLimits.Proofs.Check.Interruption
import TextLimits.Proofs.Check.ReadBack
import TextLimits.Proofs.Scan.Compiling
import TextLimits.Proofs.Check.Faults
import TextLimits.Proofs.Check.Refusal
import TextLimits.Proofs.Glob.Nesting
import TextLimits.Proofs.Scan.Acceptance
import TextLimits.Proofs.Check.Loosening
import TextLimits.Proofs.CommandLine
import TextLimits.Proofs.Settings.Source
import TextLimits.Proofs.CommandLine.Spelling
import TextLimits.Proofs.Settings.Schema
import TextLimits.Proofs.Toml.Lines
import TextLimits.Proofs.Toml.Tables
import TextLimits.Proofs.Settings.Writing
import TextLimits.Proofs.Settings.Overriding
import TextLimits.Proofs.Check.Ignoring
import TextLimits.Proofs.Program
import TextLimits.Proofs.Scan.Directories
import TextLimits.Proofs.Scan.Recursion
import TextLimits.Proofs.Scan.Levels
