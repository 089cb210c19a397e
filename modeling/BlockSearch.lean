import BlockSearch.BlockId
import BlockSearch.Command.Argument
import BlockSearch.Command.Invocation
import BlockSearch.Command.Output
import BlockSearch.Command.Run
import BlockSearch.Config.Discovery
import BlockSearch.Config.Format
import BlockSearch.Config.Layer
import BlockSearch.Config.Merge
import BlockSearch.Decimal.Double
import BlockSearch.Decimal.Layout
import BlockSearch.Decimal.Literal
import BlockSearch.Decimal.Nearest
import BlockSearch.Distinct
import BlockSearch.Document.Breadcrumb
import BlockSearch.Document.Content
import BlockSearch.Document.Error
import BlockSearch.Document.Format
import BlockSearch.Document.Inline
import BlockSearch.Document.Kind
import BlockSearch.Document.Outline
import BlockSearch.Document.Tree
import BlockSearch.Document.Walk
import BlockSearch.Edit.Highlight
import BlockSearch.Edit.Mention
import BlockSearch.Edit.Replacer
import BlockSearch.Engine.Basic
import BlockSearch.Engine.Format
import BlockSearch.Engine.Replace
import BlockSearch.Engine.Search
import BlockSearch.FullText.Excerpt
import BlockSearch.FullText.Expression
import BlockSearch.FullText.Match
import BlockSearch.FullText.Reader
import BlockSearch.Index.Database
import BlockSearch.Index.Derivation
import BlockSearch.Index.Format
import BlockSearch.Index.Record
import BlockSearch.Index.Store
import BlockSearch.Json.Printer
import BlockSearch.Json.Reader
import BlockSearch.Json.Token
import BlockSearch.Json.Value
import BlockSearch.Library.Basic
import BlockSearch.Library.Cache
import BlockSearch.Library.Files
import BlockSearch.Library.Path
import BlockSearch.Main
import BlockSearch.Mark.CaseMode
import BlockSearch.Mark.Keyword
import BlockSearch.Mark.Score
import BlockSearch.Mark.Segment
import BlockSearch.Mark.Tag
import BlockSearch.Mark.Truncate
import BlockSearch.Pattern.Basic
import BlockSearch.Pattern.CharSet
import BlockSearch.Pattern.Match
import BlockSearch.Pattern.Reader
import BlockSearch.Pattern.Replacement
import BlockSearch.Proofs.Config.Precedence
import BlockSearch.Proofs.Config.RoundTrip
import BlockSearch.Proofs.Document.Compact
import BlockSearch.Proofs.Document.Inline
import BlockSearch.Proofs.Document.RoundTrip
import BlockSearch.Proofs.Document.Section
import BlockSearch.Proofs.Document.Stored
import BlockSearch.Proofs.Forest.Basic
import BlockSearch.Proofs.Forest.Descent
import BlockSearch.Proofs.Forest.Edit
import BlockSearch.Proofs.Forest.Fields
import BlockSearch.Proofs.Forest.Growth
import BlockSearch.Proofs.Forest.History
import BlockSearch.Proofs.Forest.Splicing
import BlockSearch.Proofs.Forest.Traversal
import BlockSearch.Proofs.FullText.Phrases
import BlockSearch.Proofs.Highlight.Blocks
import BlockSearch.Proofs.Highlight.Progress
import BlockSearch.Proofs.Highlight.Splitting
import BlockSearch.Proofs.Highlight.Stretches
import BlockSearch.Proofs.Highlight.Texts
import BlockSearch.Proofs.Index.Consistency
import BlockSearch.Proofs.Index.History
import BlockSearch.Proofs.Index.Recent
import BlockSearch.Proofs.Index.Records
import BlockSearch.Proofs.Index.Reindexing
import BlockSearch.Proofs.Index.Rows
import BlockSearch.Proofs.Index.Stamps
import BlockSearch.Proofs.Json.Lexical
import BlockSearch.Proofs.Json.RoundTrip
import BlockSearch.Proofs.Library.Admission
import BlockSearch.Proofs.Library.Cache
import BlockSearch.Proofs.Library.Files
import BlockSearch.Proofs.Library.History
import BlockSearch.Proofs.Library.Path
import BlockSearch.Proofs.Library.Renaming
import BlockSearch.Proofs.Library.Target
import BlockSearch.Proofs.Library.Update
import BlockSearch.Proofs.Lists
import BlockSearch.Proofs.Mark.Alternation
import BlockSearch.Proofs.Mark.Bound
import BlockSearch.Proofs.Mark.Keyword
import BlockSearch.Proofs.Mark.Matching
import BlockSearch.Proofs.Mark.Mention
import BlockSearch.Proofs.Mark.Preview
import BlockSearch.Proofs.Mark.Safety
import BlockSearch.Proofs.Mark.Segmentation
import BlockSearch.Proofs.Mark.Similarity
import BlockSearch.Proofs.Pattern.Literal
import BlockSearch.Proofs.Pattern.Parts
import BlockSearch.Proofs.Query.Phrase
import BlockSearch.Proofs.Replace.Batch
import BlockSearch.Proofs.Replace.Frame
import BlockSearch.Proofs.Replace.Groups
import BlockSearch.Proofs.Replace.Identity
import BlockSearch.Proofs.Replace.Nested
import BlockSearch.Proofs.Replace.Order
import BlockSearch.Proofs.Replace.Revision
import BlockSearch.Proofs.Replace.Rewriting
import BlockSearch.Proofs.Replace.Walks
import BlockSearch.Proofs.Search.Acceptance
import BlockSearch.Proofs.Search.Body
import BlockSearch.Proofs.Search.Counts
import BlockSearch.Proofs.Search.Embed
import BlockSearch.Proofs.Search.Expression
import BlockSearch.Proofs.Search.Filter
import BlockSearch.Proofs.Search.Group
import BlockSearch.Proofs.Search.Invisible
import BlockSearch.Proofs.Search.Keyword
import BlockSearch.Proofs.Search.Literal
import BlockSearch.Proofs.Search.Passthrough
import BlockSearch.Proofs.Search.Placeholder
import BlockSearch.Proofs.Search.Projection
import BlockSearch.Proofs.Search.Ranking
import BlockSearch.Proofs.Search.Reference
import BlockSearch.Proofs.Search.Resolution
import BlockSearch.Proofs.Sql.Answer
import BlockSearch.Proofs.Sql.Case
import BlockSearch.Proofs.Sql.Clause
import BlockSearch.Proofs.Sql.Fuel
import BlockSearch.Proofs.Sql.Grammar
import BlockSearch.Proofs.Sql.Lexical
import BlockSearch.Proofs.Sql.Like
import BlockSearch.Proofs.Sql.Meaning
import BlockSearch.Proofs.Sql.Naming
import BlockSearch.Proofs.Sql.Order
import BlockSearch.Proofs.Sql.Restriction
import BlockSearch.Proofs.Sql.Selection
import BlockSearch.Proofs.Sql.Tally
import BlockSearch.Proofs.Text.Attribute
import BlockSearch.Proofs.Text.Blank
import BlockSearch.Proofs.Text.Folding
import BlockSearch.Proofs.Text.Occurrence
import BlockSearch.Proofs.Text.Position
import BlockSearch.Proofs.Toml.Lines
import BlockSearch.Proofs.Toml.Quoted
import BlockSearch.Query.Phrase
import BlockSearch.Search.Block
import BlockSearch.Search.BlockType
import BlockSearch.Search.Embed
import BlockSearch.Search.Error
import BlockSearch.Search.Filter
import BlockSearch.Search.Found
import BlockSearch.Search.Group
import BlockSearch.Search.Reference
import BlockSearch.Search.Request
import BlockSearch.Search.Settings
import BlockSearch.Search.Statement
import BlockSearch.Sql.Evaluation
import BlockSearch.Sql.Like
import BlockSearch.Sql.Plan
import BlockSearch.Sql.Query
import BlockSearch.Sql.Reader
import BlockSearch.Sql.Resolution
import BlockSearch.Sql.Statement
import BlockSearch.Sql.Table
import BlockSearch.Sql.Token
import BlockSearch.Sql.Value
import BlockSearch.Terminal.Style
import BlockSearch.Terminal.Table
import BlockSearch.Text.Attribute
import BlockSearch.Text.Blank
import BlockSearch.Text.Category
import BlockSearch.Text.Decode
import BlockSearch.Text.Folding
import BlockSearch.Text.Hexadecimal
import BlockSearch.Text.Html
import BlockSearch.Text.Letter
import BlockSearch.Text.Occurrence
import BlockSearch.Text.Position
import BlockSearch.Text.Range
import BlockSearch.Toml.Moment
import BlockSearch.Toml.Number
import BlockSearch.Toml.Printer
import BlockSearch.Toml.Quoted
import BlockSearch.Toml.Reader
import BlockSearch.Toml.Table
import BlockSearch.Toml.Value
