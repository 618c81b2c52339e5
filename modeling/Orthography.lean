import Orthography.Binary
import Orthography.CommandLine.Arguments
import Orthography.CommandLine.Explanation
import Orthography.CommandLine.Outcome
import Orthography.CommandLine.Run
import Orthography.Decimal
import Orthography.Decimal.Spelling
import Orthography.Declaration
import Orthography.Declaration.Document
import Orthography.Declaration.Kind
import Orthography.Duration
import Orthography.Exclusion
import Orthography.Exclusion.Pattern
import Orthography.Expansion
import Orthography.Expansion.Component
import Orthography.FilePath
import Orthography.Files
import Orthography.Files.Fault
import Orthography.Files.Tree
import Orthography.Format
import Orthography.Identifier
import Orthography.Json.Range
import Orthography.Json.Reading
import Orthography.Json.Source
import Orthography.Json.Token
import Orthography.Json.Untyped
import Orthography.Json.Value
import Orthography.Json.Writing
import Orthography.Lexicon
import Orthography.Lexicon.Memo
import Orthography.Lint
import Orthography.Main
import Orthography.Numeral
import Orthography.Output
import Orthography.Output.Ansi
import Orthography.Output.Compact
import Orthography.Output.Json
import Orthography.Output.Text
import Orthography.Policy
import Orthography.Proofs.CommandLine.Arguments
import Orthography.Proofs.CommandLine.ExitCode
import Orthography.Proofs.CommandLine.Failure
import Orthography.Proofs.CommandLine.Precedence
import Orthography.Proofs.Declaration.Listing
import Orthography.Proofs.Declaration.Place
import Orthography.Proofs.Declaration.Preorder
import Orthography.Proofs.Declaration.Variant
import Orthography.Proofs.FilePath.Joining
import Orthography.Proofs.FilePath.Order
import Orthography.Proofs.Identifier.Acronym
import Orthography.Proofs.Identifier.Cut
import Orthography.Proofs.Identifier.Gluing
import Orthography.Proofs.Identifier.Run
import Orthography.Proofs.Json.Fields
import Orthography.Proofs.Json.Plain
import Orthography.Proofs.Json.RoundTrip
import Orthography.Proofs.Json.Scanning
import Orthography.Proofs.Lexicon.Account
import Orthography.Proofs.Lexicon.Contents
import Orthography.Proofs.Lexicon.History
import Orthography.Proofs.Lexicon.Recall
import Orthography.Proofs.Lexicon.Recased
import Orthography.Proofs.Lexicon.SharedMemo
import Orthography.Proofs.Lexicon.Steps
import Orthography.Proofs.Lexicon.WordList
import Orthography.Proofs.Lint.Alone
import Orthography.Proofs.Lint.Blocks
import Orthography.Proofs.Lint.Fault
import Orthography.Proofs.Lint.Independence
import Orthography.Proofs.Lint.Replacement
import Orthography.Proofs.Lint.Result
import Orthography.Proofs.Lint.Schedule
import Orthography.Proofs.Lint.Severity
import Orthography.Proofs.Output.Ansi
import Orthography.Proofs.Output.Coloring
import Orthography.Proofs.Output.Compact
import Orthography.Proofs.Output.Grouping
import Orthography.Proofs.Output.Json
import Orthography.Proofs.Policy.Documented
import Orthography.Proofs.Policy.Options
import Orthography.Proofs.Report.Nesting
import Orthography.Proofs.Report.Tally
import Orthography.Proofs.Settings.Dictionaries
import Orthography.Proofs.Settings.Merging
import Orthography.Proofs.Settings.RoundTrip
import Orthography.Proofs.Simulation
import Orthography.Proofs.Text.Lowercase
import Orthography.Proofs.Text.Parts
import Orthography.Proofs.Text.Pieces
import Orthography.Proofs.Untyped
import Orthography.Proofs.Verdict.Misspelled
import Orthography.Proofs.Verdict.Parameters
import Orthography.Proofs.Verdict.Place
import Orthography.Proofs.Verdict.Questions
import Orthography.Proofs.Verdict.Region
import Orthography.Proofs.Verdict.Silencing
import Orthography.Proofs.Verdict.Tightening
import Orthography.Report
import Orthography.Rule
import Orthography.Schema
import Orthography.Settings
import Orthography.Severity
import Orthography.Text.Blank
import Orthography.Text.Bytes
import Orthography.Text.Capital
import Orthography.Text.Cased
import Orthography.Text.Digit
import Orthography.Text.Letter
import Orthography.Text.Lowercase
import Orthography.Text.Marks
import Orthography.Text.Run
import Orthography.Text.WordSet
import Orthography.Untyped
import Orthography.Verdict
import Orthography.Violation
import Orthography.Yaml.Block
import Orthography.Yaml.Directive
import Orthography.Yaml.Document
import Orthography.Yaml.Gap
import Orthography.Yaml.Input
import Orthography.Yaml.Node
import Orthography.Yaml.Plain
import Orthography.Yaml.Property
import Orthography.Yaml.Quoted
import Orthography.Yaml.Resolution
import Orthography.Yaml.Source
import Orthography.Yaml.Tag
import Orthography.Yaml.Token
import Orthography.Yaml.TokenStream
import Orthography.Yaml.Writing
