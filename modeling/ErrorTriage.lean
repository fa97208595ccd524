import ErrorTriage.Assertion.Basic
import ErrorTriage.Assertion.Expression
import ErrorTriage.Assertion.NamedType
import ErrorTriage.Calendar.Date
import ErrorTriage.Calendar.DateTime
import ErrorTriage.Calendar.Layout
import ErrorTriage.Capture.Ancestry
import ErrorTriage.Capture.CapturedError
import ErrorTriage.Capture.Event
import ErrorTriage.Capture.NameValues
import ErrorTriage.Capture.Request
import ErrorTriage.Command.Arguments
import ErrorTriage.Command.Run
import ErrorTriage.Filter
import ErrorTriage.Json.Basic
import ErrorTriage.Json.Reader
import ErrorTriage.Json.Writer
import ErrorTriage.Literal.TypeCode
import ErrorTriage.Literal.Typed
import ErrorTriage.Main
import ErrorTriage.NameSet
import ErrorTriage.Number.Binary64
import ErrorTriage.Number.Integer
import ErrorTriage.Number.Shortest
import ErrorTriage.Path.Basic
import ErrorTriage.Path.Reader
import ErrorTriage.Path.Step
import ErrorTriage.Pattern.CharSet
import ErrorTriage.Pattern.Meaning
import ErrorTriage.Pattern.Reader
import ErrorTriage.Pattern.Search
import ErrorTriage.Pattern.Tree
import ErrorTriage.Proofs.Assertion.Connective
import ErrorTriage.Proofs.Calendar.Fitting
import ErrorTriage.Proofs.Calendar.Stored
import ErrorTriage.Proofs.Calendar.Written
import ErrorTriage.Proofs.Capture.Chain
import ErrorTriage.Proofs.Capture.Collections
import ErrorTriage.Proofs.Capture.Compatibility
import ErrorTriage.Proofs.Capture.Extent
import ErrorTriage.Proofs.Filter.Events
import ErrorTriage.Proofs.Filter.History
import ErrorTriage.Proofs.Literal.Moment
import ErrorTriage.Proofs.Literal.Order
import ErrorTriage.Proofs.Literal.Whole
import ErrorTriage.Proofs.Number.Integer
import ErrorTriage.Proofs.Path.Document
import ErrorTriage.Proofs.Path.Fault
import ErrorTriage.Proofs.Path.Grammar
import ErrorTriage.Proofs.Path.Modes
import ErrorTriage.Proofs.Path.Written
import ErrorTriage.Proofs.Query.Conjunction
import ErrorTriage.Proofs.Query.Containment
import ErrorTriage.Proofs.Query.Grammar
import ErrorTriage.Proofs.Query.Opposite
import ErrorTriage.Proofs.Query.Readers
import ErrorTriage.Proofs.Query.Reading
import ErrorTriage.Proofs.Query.ShownTime
import ErrorTriage.Proofs.Query.Table
import ErrorTriage.Proofs.Query.Written
import ErrorTriage.Proofs.Rule.Binding
import ErrorTriage.Proofs.Rule.Comparison
import ErrorTriage.Proofs.Rule.Failure
import ErrorTriage.Proofs.Rule.Layout
import ErrorTriage.Proofs.Rule.Locator
import ErrorTriage.Proofs.Rule.Making
import ErrorTriage.Proofs.Rule.Meaning
import ErrorTriage.Proofs.Rule.Reading
import ErrorTriage.Proofs.Rule.Separation
import ErrorTriage.Proofs.Rule.Spelling
import ErrorTriage.Proofs.Rule.Standard
import ErrorTriage.Proofs.Rule.Taking
import ErrorTriage.Proofs.Rule.TypeCheck
import ErrorTriage.Proofs.Rule.Visited
import ErrorTriage.Proofs.Rule.Written
import ErrorTriage.Proofs.Text.Lowercase
import ErrorTriage.Query.Condition
import ErrorTriage.Query.LogEntry
import ErrorTriage.Query.LogQuery
import ErrorTriage.Query.Predicate
import ErrorTriage.Query.Properties
import ErrorTriage.Report.Check
import ErrorTriage.Report.Listing
import ErrorTriage.Report.Table
import ErrorTriage.Rule.Dialect
import ErrorTriage.Rule.Error
import ErrorTriage.Rule.Locator
import ErrorTriage.Rule.Node
import ErrorTriage.Rule.Parameter
import ErrorTriage.Rule.Standard
import ErrorTriage.Rule.Vocabulary
import ErrorTriage.Settings
import ErrorTriage.SortedMap
import ErrorTriage.Text.Blank
import ErrorTriage.Text.Category
import ErrorTriage.Text.Folding
import ErrorTriage.Text.Letter
import ErrorTriage.Text.Lowercase
import ErrorTriage.Text.Property
import ErrorTriage.Text.Quoted
import ErrorTriage.Text.Ranges
import ErrorTriage.Text.Script
import ErrorTriage.Text.Width
import ErrorTriage.Toml.Reader
import ErrorTriage.Toml.Scalar
import ErrorTriage.Toml.Table
import ErrorTriage.Value
import ErrorTriage.Proofs.Latest
import ErrorTriage.Proofs.Rule.Handout
import ErrorTriage.Proofs.Query.Extension
import ErrorTriage.Proofs.Rule.Naming
import ErrorTriage.Proofs.Rule.Extension
