import Rulebook.Binary64
import Rulebook.Checker.Basic
import Rulebook.Checker.Bounds
import Rulebook.Checker.Formats
import Rulebook.Checker.Nested
import Rulebook.Checker.Run
import Rulebook.Checker.Scalar
import Rulebook.Checker.Text
import Rulebook.Checker.Url
import Rulebook.Coercion
import Rulebook.Command.Arguments
import Rulebook.Command.Check
import Rulebook.Command.Run
import Rulebook.Command.Types
import Rulebook.ConfigError
import Rulebook.Decimal.Digits
import Rulebook.Decimal.Layout
import Rulebook.Decimal.Literal
import Rulebook.Decimal.Shortest
import Rulebook.Entries
import Rulebook.FieldError
import Rulebook.Guard
import Rulebook.Json.Basic
import Rulebook.Json.Number
import Rulebook.Json.Reader
import Rulebook.Json.Writer
import Rulebook.Main
import Rulebook.Message
import Rulebook.Path
import Rulebook.Pattern.Automaton
import Rulebook.Pattern.Basic
import Rulebook.Pattern.Expr
import Rulebook.Pattern.Node
import Rulebook.Pattern.Parser
import Rulebook.Pattern.Resolve
import Rulebook.Pattern.Shape
import Rulebook.Pattern.WordTree
import Rulebook.Proofs.Checkers.Builtin
import Rulebook.Proofs.Checkers.EmptyTexts
import Rulebook.Proofs.Checkers.Formats
import Rulebook.Proofs.Checkers.Items
import Rulebook.Proofs.Checkers.Mail
import Rulebook.Proofs.Checkers.MarkedItems
import Rulebook.Proofs.Checkers.Numbers
import Rulebook.Proofs.Checkers.Url
import Rulebook.Proofs.Coercions.Builtin
import Rulebook.Proofs.Coercions.Literals
import Rulebook.Proofs.Coercions.Printed
import Rulebook.Proofs.Coercions.Whole
import Rulebook.Proofs.Commands.Batch
import Rulebook.Proofs.Guards.Modes
import Rulebook.Proofs.Guards.Wording
import Rulebook.Proofs.Json.RoundTrip
import Rulebook.Proofs.Messages.Templates
import Rulebook.Proofs.Numbers.Denotation
import Rulebook.Proofs.Numbers.Rounding
import Rulebook.Proofs.Numbers.Shortest
import Rulebook.Proofs.Numbers.Whole
import Rulebook.Proofs.Patterns.Language
import Rulebook.Proofs.Patterns.Places
import Rulebook.Proofs.Patterns.Spans
import Rulebook.Proofs.Patterns.Spelling
import Rulebook.Proofs.Registries.Registration
import Rulebook.Proofs.Reports.Colours
import Rulebook.Proofs.Reports.Lines
import Rulebook.Proofs.Rules.Documents
import Rulebook.Proofs.Rules.Insertion
import Rulebook.Proofs.Rules.ItemRules
import Rulebook.Proofs.Rules.Nesting
import Rulebook.Proofs.Rules.NormalForm
import Rulebook.Proofs.Rules.Reading
import Rulebook.Proofs.Rules.Shorthand
import Rulebook.Proofs.Rules.Spelling
import Rulebook.Proofs.Text.Blank
import Rulebook.Proofs.Unicode.Folding
import Rulebook.Proofs.Urls.Addresses
import Rulebook.Proofs.Urls.Capture
import Rulebook.Proofs.Urls.Hosts
import Rulebook.Proofs.Urls.Links
import Rulebook.Proofs.Validation.Absence
import Rulebook.Proofs.Validation.Conformance
import Rulebook.Proofs.Validation.Conversion
import Rulebook.Proofs.Validation.Depth
import Rulebook.Proofs.Validation.Descent
import Rulebook.Proofs.Validation.Failure
import Rulebook.Proofs.Validation.Faults
import Rulebook.Proofs.Validation.Fieldless
import Rulebook.Proofs.Validation.Findings
import Rulebook.Proofs.Validation.Frame
import Rulebook.Proofs.Validation.Idempotence
import Rulebook.Proofs.Validation.Independence
import Rulebook.Proofs.Validation.Integers
import Rulebook.Proofs.Validation.NormalForm
import Rulebook.Proofs.Validation.Paths
import Rulebook.Proofs.Validation.Root
import Rulebook.Proofs.Validation.Slot
import Rulebook.Proofs.Validation.Unusable
import Rulebook.Proofs.Validation.Wording
import Rulebook.Proofs.Values.Alike
import Rulebook.Registry
import Rulebook.Report.Basic
import Rulebook.Report.Human
import Rulebook.Report.Lines
import Rulebook.Rule.Basic
import Rulebook.Rule.Document
import Rulebook.Rule.File
import Rulebook.Rule.WellFormed
import Rulebook.Settings
import Rulebook.Text.Blank
import Rulebook.Text.Hex
import Rulebook.Text.Quoted
import Rulebook.Text.Units
import Rulebook.Toml.Document
import Rulebook.Toml.Moment
import Rulebook.Toml.Reader
import Rulebook.Toml.Scalar
import Rulebook.Toml.Value
import Rulebook.Unicode.Age
import Rulebook.Unicode.Alphabets
import Rulebook.Unicode.BreakSigns
import Rulebook.Unicode.Breaks
import Rulebook.Unicode.CaseFolding
import Rulebook.Unicode.Casing
import Rulebook.Unicode.Categories
import Rulebook.Unicode.CodeRange
import Rulebook.Unicode.CodeSet
import Rulebook.Unicode.EarlyAges
import Rulebook.Unicode.Emoji
import Rulebook.Unicode.LateAges
import Rulebook.Unicode.Letters
import Rulebook.Unicode.Marks
import Rulebook.Unicode.Names
import Rulebook.Unicode.Numbers
import Rulebook.Unicode.Properties
import Rulebook.Unicode.Punctuation
import Rulebook.Unicode.Script
import Rulebook.Unicode.Scripts
import Rulebook.Unicode.ScriptsAToG
import Rulebook.Unicode.ScriptsHToK
import Rulebook.Unicode.ScriptsLToN
import Rulebook.Unicode.ScriptsOToS
import Rulebook.Unicode.ScriptsTToZ
import Rulebook.Unicode.Separators
import Rulebook.Unicode.Signs
import Rulebook.Unicode.Symbols
import Rulebook.Unicode.Utf8
import Rulebook.Validator
