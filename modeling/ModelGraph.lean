import ModelGraph.Action.Arg
import ModelGraph.Action.Basic
import ModelGraph.Action.Output
import ModelGraph.Action.Verb
import ModelGraph.Decimal.Binary64
import ModelGraph.Decimal.Places
import ModelGraph.Decimal.Shortest
import ModelGraph.Decimal.Written
import ModelGraph.Directive.Basic
import ModelGraph.Directive.Marker
import ModelGraph.Directive.Statement
import ModelGraph.Document.Basic
import ModelGraph.Document.Read
import ModelGraph.Document.Write
import ModelGraph.Failure
import ModelGraph.Fault
import ModelGraph.Graph.Basic
import ModelGraph.Graph.Datamodel
import ModelGraph.ImportSet.Basic
import ModelGraph.ImportSet.Session
import ModelGraph.Log.Console
import ModelGraph.Log.Event
import ModelGraph.Log.Layout
import ModelGraph.Log.Painter
import ModelGraph.Log.Record
import ModelGraph.Log.Style
import ModelGraph.Log.Traced
import ModelGraph.Model.Basic
import ModelGraph.Model.Field
import ModelGraph.Model.Partition
import ModelGraph.Moment
import ModelGraph.Name.Case
import ModelGraph.Name.Forms
import ModelGraph.Noun.Plural
import ModelGraph.Noun.Table
import ModelGraph.Options.Basic
import ModelGraph.Options.File
import ModelGraph.Options.Read
import ModelGraph.OrderedSet
import ModelGraph.Proofs.Action.ArgName
import ModelGraph.Proofs.Action.Classes
import ModelGraph.Proofs.Action.CustomArgs
import ModelGraph.Proofs.Action.Declarations
import ModelGraph.Proofs.Action.Decoding
import ModelGraph.Proofs.Action.Directory
import ModelGraph.Proofs.Action.Imports
import ModelGraph.Proofs.Action.Include
import ModelGraph.Proofs.Action.Linking
import ModelGraph.Proofs.Action.Specificity
import ModelGraph.Proofs.Action.Verb
import ModelGraph.Proofs.Directive.Exhaustion
import ModelGraph.Proofs.Directive.Extract
import ModelGraph.Proofs.Directive.Listing
import ModelGraph.Proofs.Directive.Marker
import ModelGraph.Proofs.Directive.Quotation
import ModelGraph.Proofs.Directive.Seam
import ModelGraph.Proofs.Document.Edit
import ModelGraph.Proofs.Document.Layout
import ModelGraph.Proofs.Document.Locality
import ModelGraph.Proofs.Document.RoundTrip
import ModelGraph.Proofs.Document.Violations
import ModelGraph.Proofs.Graph.Appended
import ModelGraph.Proofs.Graph.Build
import ModelGraph.Proofs.Graph.Checks
import ModelGraph.Proofs.Graph.Headings
import ModelGraph.Proofs.Graph.Log
import ModelGraph.Proofs.Graph.Operations
import ModelGraph.Proofs.ImportSet.Changes
import ModelGraph.Proofs.ImportSet.History
import ModelGraph.Proofs.ImportSet.Order
import ModelGraph.Proofs.Log.Console
import ModelGraph.Proofs.Log.FirstFailure
import ModelGraph.Proofs.Log.Line
import ModelGraph.Proofs.Log.Records
import ModelGraph.Proofs.Log.Style
import ModelGraph.Proofs.Model.Imports
import ModelGraph.Proofs.Model.Partition
import ModelGraph.Proofs.Name.LastWord
import ModelGraph.Proofs.Name.Letters
import ModelGraph.Proofs.Name.SnakeRule
import ModelGraph.Proofs.Name.Words
import ModelGraph.Proofs.Options.File
import ModelGraph.Proofs.Options.NormalForm
import ModelGraph.Proofs.Options.Overrides
import ModelGraph.Proofs.Options.Paths
import ModelGraph.Proofs.Report
import ModelGraph.Proofs.Text.Decoding
import ModelGraph.Proofs.Text.Occurrence
import ModelGraph.Proofs.Validation.Keys
import ModelGraph.Proofs.Validation.Location
import ModelGraph.Proofs.Validation.Success
import ModelGraph.Proofs.Validation.Violations
import ModelGraph.Proofs.Walk
import ModelGraph.Proofs.Yaml.Reading
import ModelGraph.Report
import ModelGraph.Template.Basic
import ModelGraph.Template.Number
import ModelGraph.Template.Refusal
import ModelGraph.Template.Render
import ModelGraph.Text.Base64
import ModelGraph.Text.Case
import ModelGraph.Text.Case.Context
import ModelGraph.Text.Case.Table
import ModelGraph.Text.Classes
import ModelGraph.Text.Numeral
import ModelGraph.Text.Portion
import ModelGraph.Text.Printable
import ModelGraph.Text.Quoted
import ModelGraph.Text.Search
import ModelGraph.Text.Utf8
import ModelGraph.Validation.Checked
import ModelGraph.Validation.Reader
import ModelGraph.Validation.Violation
import ModelGraph.Value
import ModelGraph.Walk
import ModelGraph.Yaml.Content
import ModelGraph.Yaml.Fault
import ModelGraph.Yaml.Kind
import ModelGraph.Yaml.Lexer
import ModelGraph.Yaml.Line
import ModelGraph.Yaml.Moment
import ModelGraph.Yaml.Node
import ModelGraph.Yaml.Number
import ModelGraph.Yaml.Quoted
import ModelGraph.Yaml.Read
import ModelGraph.Yaml.Scalar
import ModelGraph.Yaml.Token
import ModelGraph.Yaml.Unquoted
