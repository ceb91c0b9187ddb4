import EnvLint.Cli.Arguments
import EnvLint.Cli.Option
import EnvLint.Cli.Overrides
import EnvLint.Cli.Run
import EnvLint.Cli.Token
import EnvLint.Cli.Usage
import EnvLint.Decimal.Binary64
import EnvLint.Decimal.Numeral
import EnvLint.Decimal.Rounding
import EnvLint.Decimal.Shortest
import EnvLint.Env.Detect
import EnvLint.Env.Rule
import EnvLint.Env.Session
import EnvLint.Env.State
import EnvLint.Failure
import EnvLint.File.Disk
import EnvLint.File.Entry
import EnvLint.File.Glob
import EnvLint.File.Path
import EnvLint.File.Read
import EnvLint.File.Utf8
import EnvLint.Host
import EnvLint.Json.Basic
import EnvLint.Json.Decode
import EnvLint.Json.Encode
import EnvLint.Json.Show
import EnvLint.Json.Size
import EnvLint.Lint.Context
import EnvLint.Lint.Diagnostic
import EnvLint.Lint.Discover
import EnvLint.Lint.Event
import EnvLint.Lint.Linter
import EnvLint.Lint.Program
import EnvLint.Lint.Result
import EnvLint.Main
import EnvLint.Pattern.CharTest
import EnvLint.Pattern.Escape
import EnvLint.Pattern.Fault
import EnvLint.Pattern.GroupHead
import EnvLint.Pattern.Lead
import EnvLint.Pattern.Matcher
import EnvLint.Pattern.Node
import EnvLint.Pattern.Reader
import EnvLint.Pattern.Regex
import EnvLint.Pattern.Scanner
import EnvLint.Report.Columns
import EnvLint.Report.Console
import EnvLint.Report.Machine
import EnvLint.Report.Markup
import EnvLint.Report.Palette
import EnvLint.Report.Plain
import EnvLint.Report.Style
import EnvLint.Report.StyledText
import EnvLint.Report.Summary
import EnvLint.Report.TextRun
import EnvLint.Rule.Config
import EnvLint.Rule.Load
import EnvLint.Rule.Meta
import EnvLint.Rule.Options
import EnvLint.Rule.Setting
import EnvLint.Rule.Template
import EnvLint.Text.Blank
import EnvLint.Text.Case
import EnvLint.Text.Cells
import EnvLint.Text.CodeSet
import EnvLint.Text.Hex
import EnvLint.Text.Identifier
import EnvLint.Text.Letters
import EnvLint.Text.Printable
import EnvLint.Text.Quoted
import EnvLint.Text.Width
import EnvLint.Tree.Children
import EnvLint.Tree.Location
import EnvLint.Tree.Node
import EnvLint.Tree.Walk
import EnvLint.Proofs.Tree.Traversal
import EnvLint.Proofs.Refusals
import EnvLint.Proofs.Env.Known
import EnvLint.Proofs.Env.Run
import EnvLint.Proofs.Env.Verdict
import EnvLint.Proofs.Env.ExitCalls
import EnvLint.Proofs.Report.Markup
import EnvLint.Proofs.Report.Written
import EnvLint.Proofs.Env.Malformed
import EnvLint.Proofs.Cli.Ending
import EnvLint.Proofs.Tree.Pruned
import EnvLint.Proofs.Env.Pruned
import EnvLint.Proofs.Tree.Location
import EnvLint.Proofs.Env.Handlers
import EnvLint.Proofs.Rule.Grammar
import EnvLint.Proofs.Lint.SetUp
import EnvLint.Proofs.Json.Token
import EnvLint.Proofs.Json.RoundTrip
import EnvLint.Proofs.Report.Decoded
import EnvLint.Proofs.Report.Retold
import EnvLint.Proofs.Repetition
import EnvLint.Proofs.File.Below
import EnvLint.Proofs.Lint.Files
import EnvLint.Proofs.Lint.Discovery
import EnvLint.Proofs.Cli.ExitCode
import EnvLint.Proofs.Dictionary
import EnvLint.Proofs.InPlace
import EnvLint.Proofs.Json.Distinct
import EnvLint.Proofs.Cli.Overrides
import EnvLint.Proofs.Rule.Slots
import EnvLint.Proofs.Pattern.Words
import EnvLint.Proofs.Rule.ServerOnly
import EnvLint.Proofs.File.Encoding
import EnvLint.Proofs.Json.Remainder
import EnvLint.Proofs.Json.Newlines
import EnvLint.Proofs.Json.LineEnds
import EnvLint.Proofs.Lint.Loading
import EnvLint.Proofs.Lint.Pool
import EnvLint.Proofs.Lint.Schedule
import EnvLint.Proofs.Env.Collected
import EnvLint.Proofs.Env.Flagged
import EnvLint.Proofs.Lint.Reports
import EnvLint.Proofs.Report.Ranges
import EnvLint.Proofs.Rule.Chain
import EnvLint.Proofs.Report.Characters
import EnvLint.Proofs.Text.Narrow
import EnvLint.Proofs.Report.Shown
import EnvLint.Proofs.Report.Styles
import EnvLint.Proofs.Report.Uncolored
import EnvLint.Proofs.Report.Layout
import EnvLint.Proofs.Report.Literal
