import Cohort.Attribute.Coercion
import Cohort.Attribute.Kind
import Cohort.Attribute.Operator
import Cohort.Attribute.Parameter
import Cohort.Binary64.Basic
import Cohort.Binary64.Shortest
import Cohort.Calculation.Error
import Cohort.Calculation.Log
import Cohort.Calculation.Preparation
import Cohort.Calculation.Reading
import Cohort.Calculation.Recording
import Cohort.Calculation.Service
import Cohort.Catalog.Definitions
import Cohort.Catalog.Prefetch
import Cohort.Catalog.Table
import Cohort.Command
import Cohort.Decimal.Basic
import Cohort.Decimal.Reader
import Cohort.Definition.Basic
import Cohort.Definition.Document
import Cohort.Instant.Basic
import Cohort.Instant.Microsecond
import Cohort.Instant.Reader
import Cohort.Json.Basic
import Cohort.Json.Decoder
import Cohort.Json.Mismatch
import Cohort.Json.Number
import Cohort.Json.Printer
import Cohort.Json.Reader
import Cohort.Main
import Cohort.Metadata.Client
import Cohort.Metadata.Registry
import Cohort.Metadata.Rows
import Cohort.Notification.Delivery
import Cohort.Notification.Orchestrator
import Cohort.Numeral
import Cohort.Proofs.Calculation.Failures
import Cohort.Proofs.Calculation.History
import Cohort.Proofs.Calculation.Outcome
import Cohort.Proofs.Calculation.Recording
import Cohort.Proofs.Catalog.Prefetch
import Cohort.Proofs.Checking
import Cohort.Proofs.Json.Record
import Cohort.Proofs.Metadata.Asking
import Cohort.Proofs.Numeral
import Cohort.Proofs.Query.Derivation
import Cohort.Proofs.Query.Noninterference
import Cohort.Proofs.Query.Placeholders
import Cohort.Proofs.Query.Quoting
import Cohort.Proofs.Query.Reading
import Cohort.Proofs.Query.Resolution
import Cohort.Proofs.Query.Selection
import Cohort.Proofs.Query.Spelling
import Cohort.Proofs.Query.WellFormed
import Cohort.Proofs.Rule.Document
import Cohort.Proofs.Rule.Form
import Cohort.Proofs.Rule.Grammar
import Cohort.Proofs.Rule.Position
import Cohort.Proofs.Rule.References
import Cohort.Proofs.Rule.RoundTrip
import Cohort.Proofs.Sql.Meaning
import Cohort.Proofs.Sql.Occurrence
import Cohort.Proofs.Sql.Syntax
import Cohort.Proofs.Sql.Token
import Cohort.Proofs.Store.Rows
import Cohort.Proofs.Store.Session
import Cohort.Proofs.Text.Blank
import Cohort.Proofs.Uuid
import Cohort.Query.Builder
import Cohort.Query.Membership
import Cohort.Query.Predicate
import Cohort.Query.Resolution
import Cohort.Rule.Document
import Cohort.Rule.Error
import Cohort.Rule.References
import Cohort.Rule.Tree
import Cohort.Settings
import Cohort.Store.Database
import Cohort.Store.Document
import Cohort.Store.Error
import Cohort.Store.Session
import Cohort.Store.Statement
import Cohort.Text.Ascii
import Cohort.Text.Blank
import Cohort.Text.CodeTable
import Cohort.Text.Composition
import Cohort.Text.Direction
import Cohort.Text.Joining
import Cohort.Text.Mark
import Cohort.Text.Parts
import Cohort.Text.Printable
import Cohort.Text.Quoted
import Cohort.Text.Utf8
import Cohort.Url.Basic
import Cohort.Url.Connection
import Cohort.Url.Domain.Basic
import Cohort.Url.Domain.Mapping
import Cohort.Url.Encoding
import Cohort.Url.Host
import Cohort.Url.Masking
import Cohort.Url.Punycode
import Cohort.Url.Reader
import Cohort.Uuid
import Cohort.Proofs.Query.Aliases
import Cohort.Proofs.Query.Containing
import Cohort.Proofs.Query.Contributions
import Cohort.Proofs.Query.Counting
import Cohort.Proofs.Query.Renumbering
import Cohort.Proofs.Query.Rewriting
import Cohort.Proofs.Query.Typing
import Cohort.Proofs.Calculation.Reading
import Cohort.Proofs.Calculation.Script
import Cohort.Proofs.Calculation.Completion
import Cohort.Proofs.Calculation.Explanation
import Cohort.Proofs.Calculation.Triggering
import Cohort.Proofs.Catalog.Loading
import Cohort.Proofs.Rule.Tag
import Cohort.Proofs.Catalog.Order
import Cohort.Proofs.Attribute.Integer
import Cohort.Proofs.Text.Words
import Cohort.Proofs.Text.Composition
import Cohort.Proofs.Query.Wording
import Cohort.Proofs.Decimal.Value
import Cohort.Proofs.Decimal.Reading
import Cohort.Proofs.Attribute.Numeric
import Cohort.Proofs.Instant.RoundTrip
import Cohort.Proofs.Attribute.Stability
import Cohort.Proofs.Url.Host
import Cohort.Proofs.Url.Credentials
import Cohort.Proofs.Url.Masking
import Cohort.Proofs.Calculation.Cause
import Cohort.Proofs.Rule.Place
