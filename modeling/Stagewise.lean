import Stagewise.Catalog.Basic
import Stagewise.Catalog.Standard
import Stagewise.Config.Basic
import Stagewise.Config.Text
import Stagewise.Document.Acceptance
import Stagewise.Document.Basic
import Stagewise.Document.Fill
import Stagewise.Document.Validation
import Stagewise.Duration
import Stagewise.Formula.Basic
import Stagewise.Formula.Builtin
import Stagewise.Formula.Context
import Stagewise.Formula.EvalError
import Stagewise.Formula.Evaluation
import Stagewise.Formula.Expression
import Stagewise.Formula.Fields
import Stagewise.Formula.Grammar
import Stagewise.Formula.ParseError
import Stagewise.Formula.Safety
import Stagewise.Formula.Token
import Stagewise.Formula.Token.Scan
import Stagewise.Formula.Tree
import Stagewise.Formula.Value
import Stagewise.Generation.Attempt
import Stagewise.Generation.Run
import Stagewise.Generation.Script
import Stagewise.Generation.Store
import Stagewise.Json.Basic
import Stagewise.Json.Numeral
import Stagewise.Json.Reader
import Stagewise.Json.Shape
import Stagewise.Json.Writer
import Stagewise.Metrics
import Stagewise.Number.Decimal
import Stagewise.Number.Double
import Stagewise.Number.Layout
import Stagewise.Prompt
import Stagewise.Record
import Stagewise.Reply
import Stagewise.Request
import Stagewise.RequestError
import Stagewise.Result
import Stagewise.Stage
import Stagewise.Text.Blank
import Stagewise.Text.Letter
import Stagewise.Text.Quoted
import Stagewise.Text.Range
import Stagewise.Text.Unprintable
import Stagewise.Usage
import Stagewise.Proofs.Grammar.Derivation
import Stagewise.Proofs.Grammar.Completeness
import Stagewise.Proofs.Grammar.Exactness
import Stagewise.Proofs.Document.Acceptance
import Stagewise.Proofs.Document.Accepted
import Stagewise.Proofs.Formula.Noninterference
import Stagewise.Proofs.Formula.FilterItem
import Stagewise.Proofs.Formula.LongForm
import Stagewise.Proofs.Generation.Attempts
import Stagewise.Proofs.Generation.Retry
import Stagewise.Proofs.Generation.Outcomes
import Stagewise.Proofs.Generation.Result
import Stagewise.Proofs.Generation.Provenance
import Stagewise.Proofs.Metrics.SessionQueue
import Stagewise.Proofs.Metrics.Retention
import Stagewise.Proofs.Generation.Accounting
import Stagewise.Proofs.Text.Letter
import Stagewise.Proofs.Token.Lexeme
import Stagewise.Proofs.Token.Longest
import Stagewise.Proofs.Token.Number
import Stagewise.Proofs.Token.Front
import Stagewise.Proofs.Token.Cover
import Stagewise.Proofs.Token.Writing
import Stagewise.Proofs.Grammar.Layout
import Stagewise.Proofs.Formula.NullField
import Stagewise.Proofs.Json.RoundTrip
import Stagewise.Proofs.Document.Filled
import Stagewise.Proofs.Document.Reload
import Stagewise.Proofs.Wire
import Stagewise.Proofs.Document.Growth
import Stagewise.Proofs.Generation.Prompting
import Stagewise.Proofs.Json.Locality
import Stagewise.Proofs.Json.Assembly
import Stagewise.Proofs.Reply
import Stagewise.Proofs.Prompt
import Stagewise.Proofs.Formula.Names
import Stagewise.Proofs.Formula.UnknownName
import Stagewise.Proofs.Formula.Renaming
import Stagewise.Proofs.Formula.Levels
import Stagewise.Proofs.Grammar.Levels
import Stagewise.Proofs.Document.Violations
import Stagewise.Proofs.Formula.Filtering
import Stagewise.Proofs.Formula.Aggregate
import Stagewise.Proofs.Number.Whole
import Stagewise.Proofs.Formula.Conversion
import Stagewise.Proofs.Generation.Persistence
import Stagewise.Proofs.Formula.Length
import Stagewise.Proofs.Formula.Height
import Stagewise.Proofs.Grammar.Discipline
import Stagewise.Proofs.Text.Quoted
import Stagewise.Proofs.Formula.Display
import Stagewise.Proofs.Formula.Legible
import Stagewise.Proofs.Formula.Outline
