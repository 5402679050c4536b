import TagRules.Command.Run
import TagRules.Command.Usage
import TagRules.Command.World
import TagRules.Config.Basic
import TagRules.Config.Load
import TagRules.Document.Base64
import TagRules.Document.Encoding
import TagRules.Document.Json.Basic
import TagRules.Document.Json.Decode
import TagRules.Document.Json.Scalar
import TagRules.Document.Json.Text
import TagRules.Document.Json.Writer
import TagRules.Document.Problem
import TagRules.Document.Yaml.Cursor
import TagRules.Document.Yaml.ImpliedType
import TagRules.Document.Yaml.Layout
import TagRules.Document.Yaml.Merge
import TagRules.Document.Yaml.Node
import TagRules.Document.Yaml.NodeValue
import TagRules.Document.Yaml.Object
import TagRules.Document.Yaml.Scalar
import TagRules.Document.Yaml.ScalarValue
import TagRules.Document.Yaml.Timestamp
import TagRules.Document.Yaml.Token
import TagRules.Engine
import TagRules.Entries
import TagRules.Expr.Basic
import TagRules.Expr.Evaluate
import TagRules.Expr.Evidence
import TagRules.Expr.ParseError
import TagRules.Expr.Parser
import TagRules.Expr.SolveOrder
import TagRules.Expr.Source
import TagRules.Expr.Walk
import TagRules.Extractor.Basic
import TagRules.Extractor.Definition
import TagRules.Extractor.Pattern
import TagRules.Extractor.Problem
import TagRules.Extractor.Range
import TagRules.Extractor.Registry
import TagRules.Field.Index
import TagRules.Field.Path
import TagRules.Log
import TagRules.Main
import TagRules.Number.Arithmetic
import TagRules.Number.Binary64
import TagRules.Number.Compare
import TagRules.Number.Decimal
import TagRules.Number.Integer
import TagRules.Number.Shortest
import TagRules.Pattern.Branches
import TagRules.Pattern.Escape
import TagRules.Pattern.Fold
import TagRules.Pattern.Group
import TagRules.Pattern.Inline
import TagRules.Pattern.Match
import TagRules.Pattern.Parse
import TagRules.Pattern.Problem
import TagRules.Pattern.Reader
import TagRules.Pattern.Repetition
import TagRules.Pattern.Search
import TagRules.Pattern.Set
import TagRules.Pattern.Single
import TagRules.Pattern.Spot
import TagRules.Pattern.Syntax
import TagRules.Rule.Store
import TagRules.Settings
import TagRules.Tagger
import TagRules.Text.Blank
import TagRules.Text.Case
import TagRules.Text.CharacterName
import TagRules.Text.CharacterName.Abugidas
import TagRules.Text.CharacterName.Alias
import TagRules.Text.CharacterName.Alphabets
import TagRules.Text.CharacterName.Hieroglyphs
import TagRules.Text.CharacterName.OldScripts
import TagRules.Text.CharacterName.Pictures
import TagRules.Text.CharacterName.Syllables
import TagRules.Text.CharacterName.Symbols
import TagRules.Text.CodeRanges
import TagRules.Text.Lines
import TagRules.Text.Lower
import TagRules.Text.Name
import TagRules.Text.Plain
import TagRules.Text.Printable
import TagRules.Text.Quoted
import TagRules.Text.Word
import TagRules.Token.Basic
import TagRules.Token.Lexer
import TagRules.Token.Literal
import TagRules.Value.Basic
import TagRules.Value.Calendar
import TagRules.Value.Display
import TagRules.Value.Key
import TagRules.Value.Mismatch
import TagRules.Proofs.Grammar.Basic
import TagRules.Proofs.Grammar.Reading
import TagRules.Proofs.Grammar.Complete
import TagRules.Proofs.Grammar.Sound
import TagRules.Proofs.Evaluation.Truth
import TagRules.Proofs.Grammar.Sentence
import TagRules.Proofs.Evaluation.Preorder
import TagRules.Proofs.Evaluation.Sweep
import TagRules.Proofs.Evaluation.Linear
import TagRules.Proofs.Evaluation.Agreement
import TagRules.Proofs.Distinct
import TagRules.Proofs.Entries
import TagRules.Proofs.Field.Path
import TagRules.Proofs.Field.Index
import TagRules.Proofs.Engine.Reachable
import TagRules.Proofs.Engine.Process
import TagRules.Proofs.Tagging.Exclusion
import TagRules.Proofs.Rule.InPlace
import TagRules.Proofs.Rule.Log
import TagRules.Proofs.Engine.Evaluation
import TagRules.Proofs.Tagging.Leaves
import TagRules.Proofs.Token.Written
import TagRules.Proofs.Grammar.Print
import TagRules.Proofs.Grammar.References
import TagRules.Proofs.Rule.Names
import TagRules.Proofs.Tagging.Lasting
import TagRules.Proofs.Engine.Text
import TagRules.Proofs.Grammar.Writable
import TagRules.Proofs.Engine.Safety
import TagRules.Proofs.Config.Rules
import TagRules.Proofs.Engine.Scope
import TagRules.Proofs.Token.Tiling
import TagRules.Proofs.Config.Reported
import TagRules.Proofs.Token.Encoded
import TagRules.Proofs.Tagging.Paths
import TagRules.Proofs.Engine.Addressing
import TagRules.Proofs.Config.Tags
import TagRules.Proofs.Evaluation.Encoding
import TagRules.Proofs.Evaluation.Unfolding
import TagRules.Proofs.Grammar.Collected
import TagRules.Proofs.Token.Concatenation
import TagRules.Proofs.Grammar.Composition
import TagRules.Proofs.Evaluation.Monotone
import TagRules.Proofs.Token.Recovery
import TagRules.Proofs.Token.Deliveries
import TagRules.Proofs.Token.Casing
import TagRules.Proofs.Grammar.Casing
import TagRules.Proofs.Engine.Casing
import TagRules.Proofs.Grammar.Requests
import TagRules.Proofs.Engine.Relevance
import TagRules.Proofs.Rule.Faults
import TagRules.Proofs.Grammar.Outline
import TagRules.Proofs.Number.Order
import TagRules.Proofs.Tagging.Ranges
import TagRules.Proofs.Evaluation.Walks
import TagRules.Proofs.Field.Inversion
import TagRules.Proofs.Tagging.Patterns
import TagRules.Proofs.Config.Registrations
