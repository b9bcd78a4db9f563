import Qualify.Application
import Qualify.Band
import Qualify.BaseScore
import Qualify.Calendar
import Qualify.Check
import Qualify.Check.Record
import Qualify.Check.Scalar
import Qualify.Command
import Qualify.Command.Run
import Qualify.CommandLine
import Qualify.CommandLine.Help
import Qualify.Condition
import Qualify.Defaults
import Qualify.Email
import Qualify.Evaluation
import Qualify.Evaluation.Writer
import Qualify.Event
import Qualify.Failure
import Qualify.Fault
import Qualify.Folder
import Qualify.Journal
import Qualify.Journal.Wording
import Qualify.Json
import Qualify.Json.Reader
import Qualify.Json.Writer
import Qualify.Lead
import Qualify.Main
import Qualify.Metrics
import Qualify.Number.Binary64
import Qualify.Number.Decimal
import Qualify.Number.Fixed
import Qualify.Number.Power
import Qualify.Number.Shortest
import Qualify.Outcome
import Qualify.Path
import Qualify.Pattern.Basic
import Qualify.Pattern.Escape
import Qualify.Pattern.Flags
import Qualify.Pattern.Folding
import Qualify.Pattern.Item
import Qualify.Pattern.Match
import Qualify.Pattern.Opening
import Qualify.Pattern.Reader
import Qualify.Pattern.Reading
import Qualify.Pattern.Token
import Qualify.Points
import Qualify.Proofs.Except
import Qualify.Proofs.StableOrder
import Qualify.Proofs.Value.Parts
import Qualify.Reload
import Qualify.Report
import Qualify.Rule
import Qualify.Rule.Reader
import Qualify.Rule.Writer
import Qualify.Rulebook
import Qualify.Scorecard
import Qualify.Scorecard.Reader
import Qualify.Settings
import Qualify.Settings.EnvFile
import Qualify.Source
import Qualify.Text.Alphanumeric
import Qualify.Text.Blank
import Qualify.Text.Case
import Qualify.Text.CaseTable
import Qualify.Text.CharacterName
import Qualify.Text.Digit
import Qualify.Text.Layout
import Qualify.Text.Numeral
import Qualify.Text.Pieces
import Qualify.Text.Printable
import Qualify.Text.Quoted
import Qualify.Text.Ranges
import Qualify.Text.Similar
import Qualify.Text.Utf8
import Qualify.Transcript
import Qualify.Value
import Qualify.Value.Same
import Qualify.Value.Text
import Qualify.Vocabulary
import Qualify.Yaml.Cursor
import Qualify.Yaml.Data
import Qualify.Yaml.Node
import Qualify.Yaml.Node.Reader
import Qualify.Yaml.Scalar
import Qualify.Yaml.Style
import Qualify.Yaml.Tag
import Qualify.Yaml.Token
import Qualify.Yaml.Token.Lexer
import Qualify.Yaml.Writer
import Qualify.Proofs.Value.Text
import Qualify.Proofs.Application
import Qualify.Proofs.Points
import Qualify.Proofs.Application.Independence
import Qualify.Proofs.Application.Totality
import Qualify.Proofs.BaseScore
import Qualify.Proofs.Evaluation
import Qualify.Proofs.Evaluation.Marker
import Qualify.Proofs.Number.Rounding
import Qualify.Proofs.Number.Shortest
import Qualify.Proofs.Points.Range
import Qualify.Proofs.Check.Problems
import Qualify.Proofs.Application.Agreement
import Qualify.Proofs.Outcome.Weight
import Qualify.Proofs.Lead.Plain
import Qualify.Proofs.BaseScore.Range
import Qualify.Proofs.Scorecard
import Qualify.Proofs.BaseScore.Extremes
import Qualify.Proofs.Evaluation.Capacity
import Qualify.Proofs.Command
import Qualify.Proofs.BaseScore.Order
import Qualify.Proofs.Check.Number
import Qualify.Proofs.Check.Pair
import Qualify.Proofs.Evaluation.Raised
import Qualify.Proofs.BaseScore.Spelling
import Qualify.Proofs.BaseScore.Dependence
import Qualify.Proofs.BaseScore.Reconciliation
import Qualify.Proofs.Rulebook
import Qualify.Proofs.Command.Stream
import Qualify.Proofs.Scorecard.Revalidation
import Qualify.Proofs.Lead.Interchange
import Qualify.Proofs.BaseScore.Seniority
import Qualify.Proofs.Source.Overlap
import Qualify.Proofs.Path
import Qualify.Proofs.Evaluation.Saturation
import Qualify.Proofs.Pattern.Match
import Qualify.Proofs.BaseScore.Occurrence
import Qualify.Proofs.Condition
import Qualify.Proofs.Application.Conjunction
import Qualify.Proofs.Condition.Texts
import Qualify.Proofs.Value.Equality
import Qualify.Proofs.Condition.Algebra
import Qualify.Proofs.Value.Facing
import Qualify.Proofs.Condition.Separation
import Qualify.Proofs.Band
import Qualify.Proofs.Path.Composition
import Qualify.Proofs.Path.Graph
import Qualify.Proofs.Evaluation.Explanation
import Qualify.Proofs.Pattern.Language
import Qualify.Proofs.Email.Address
import Qualify.Proofs.Email.Registrable
import Qualify.Proofs.BaseScore.InvalidDomain
import Qualify.Proofs.Email.Subdomain
import Qualify.Proofs.Scorecard.Remarks
import Qualify.Proofs.Scorecard.Spelling
import Qualify.Proofs.BaseScore.Respelled
import Qualify.Proofs.Reload.Schedule
import Qualify.Proofs.Reload.Watcher
import Qualify.Proofs.Evaluation.Counted
import Qualify.Proofs.Defaults
import Qualify.Proofs.Yaml.Written
import Qualify.Proofs.Command.Defaults
import Qualify.Proofs.Source.Teams
import Qualify.Proofs.Settings
import Qualify.Proofs.Number.Numeral
import Qualify.Proofs.Number.Layout
import Qualify.Proofs.Points.Exact
import Qualify.Proofs.Points.Product
import Qualify.Proofs.Number.Whole
import Qualify.Proofs.Points.Configured
import Qualify.Proofs.Text.Ascii
import Qualify.Proofs.Outcome.Reason
import Qualify.Proofs.Text.Separator
import Qualify.Proofs.BaseScore.Level
