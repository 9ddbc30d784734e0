import FeatureToggles.Catalog.Document
import FeatureToggles.Catalog.File
import FeatureToggles.Catalog.Listing
import FeatureToggles.Catalog.Record
import FeatureToggles.Condition
import FeatureToggles.Context
import FeatureToggles.Engine
import FeatureToggles.ErrorClass
import FeatureToggles.Exporter
import FeatureToggles.Expr
import FeatureToggles.Expr.Eval
import FeatureToggles.Expr.Fault
import FeatureToggles.Expr.Parser
import FeatureToggles.Expr.Token
import FeatureToggles.Failure
import FeatureToggles.Fault
import FeatureToggles.Fault.Graph
import FeatureToggles.Feature
import FeatureToggles.Json
import FeatureToggles.Json.Bytes
import FeatureToggles.Json.Parser
import FeatureToggles.Json.Printer
import FeatureToggles.Json.Value
import FeatureToggles.Log
import FeatureToggles.Metrics
import FeatureToggles.Metrics.Exposition
import FeatureToggles.Metrics.Measurement
import FeatureToggles.Number
import FeatureToggles.Number.Binary64
import FeatureToggles.Number.Decimal
import FeatureToggles.Number.Numeral
import FeatureToggles.Number.Scaled
import FeatureToggles.Number.Scientific
import FeatureToggles.Number.Shortest
import FeatureToggles.Proofs.Expr.Grammar
import FeatureToggles.Service
import FeatureToggles.Service.Body
import FeatureToggles.Service.Reply
import FeatureToggles.Service.Request
import FeatureToggles.Service.Resource
import FeatureToggles.Service.Route
import FeatureToggles.Settings
import FeatureToggles.Text.Blank
import FeatureToggles.Text.CodePage
import FeatureToggles.Text.Decoding
import FeatureToggles.Text.Digit
import FeatureToggles.Text.Encoding
import FeatureToggles.Text.Half
import FeatureToggles.Text.Newline
import FeatureToggles.Text.Printable
import FeatureToggles.Text.Quoted
import FeatureToggles.Text.Split
import FeatureToggles.Validation
import FeatureToggles.Value
import FeatureToggles.Value.Entries
import FeatureToggles.Value.Render
import FeatureToggles.Proofs.Expr.Lexeme
import FeatureToggles.Proofs.Expr.Terminal
import FeatureToggles.Proofs.Expr.Derivation
import FeatureToggles.Proofs.Engine.Decision
import FeatureToggles.Proofs.Fault.Asking
import FeatureToggles.Proofs.Value.Raising
import FeatureToggles.Proofs.Condition.Raising
import FeatureToggles.Proofs.Engine.Coherence
import FeatureToggles.Proofs.Expr.Concatenation
import FeatureToggles.Proofs.Expr.Printing
import FeatureToggles.Proofs.Condition.Composition
import FeatureToggles.Proofs.Catalog.Reading
import FeatureToggles.Proofs.Catalog.Refusal
import FeatureToggles.Proofs.Catalog.Spelling
import FeatureToggles.Proofs.Service.Labels
import FeatureToggles.Proofs.Json.Grammar
import FeatureToggles.Proofs.Json.LineEnd
import FeatureToggles.Proofs.Engine.Refinement
import FeatureToggles.Proofs.Json.RoundTrip
import FeatureToggles.Proofs.Service.Writing
import FeatureToggles.Proofs.Service.Answers
import FeatureToggles.Proofs.Service.Evaluation
import FeatureToggles.Proofs.Service.Listing
import FeatureToggles.Proofs.Service.Requests
import FeatureToggles.Proofs.Expr.Safety
import FeatureToggles.Proofs.Condition.Report
import FeatureToggles.Proofs.Engine.Locality
import FeatureToggles.Proofs.Engine.Feed
import FeatureToggles.Proofs.Expr.Viability
import FeatureToggles.Proofs.Condition.Extension
import FeatureToggles.Proofs.Condition.Literal
import FeatureToggles.Proofs.Expr.Ordering
import FeatureToggles.Proofs.Value.Equality
import FeatureToggles.Proofs.Expr.Equality
import FeatureToggles.Proofs.Expr.Minus
import FeatureToggles.Proofs.Catalog.Concatenation
import FeatureToggles.Proofs.Engine.Events
import FeatureToggles.Proofs.Value.Writing
import FeatureToggles.Proofs.Catalog.Winning
import FeatureToggles.Proofs.Context.Snapshot
import FeatureToggles.Proofs.Text.Encoded
import FeatureToggles.Proofs.Catalog.Encoded
import FeatureToggles.Proofs.Expr.Tiling
import FeatureToggles.Proofs.Fault.Chain
import FeatureToggles.Proofs.Json.Wanting
import FeatureToggles.Proofs.Catalog.Unreadable
import FeatureToggles.Proofs.Service.Tally
import FeatureToggles.Proofs.Exporter.Headers
import FeatureToggles.Proofs.Expr.Resolution
import FeatureToggles.Proofs.Expr.Cursor
