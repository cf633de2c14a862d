import Conduit.Api.Address
import Conduit.Api.Endpoint
import Conduit.Api.Request
import Conduit.Api.Response
import Conduit.Api.Service
import Conduit.Api.Stream
import Conduit.Catalog
import Conduit.Condition.Datum
import Conduit.Condition.Eval
import Conduit.Condition.Expr
import Conduit.Condition.Grammar
import Conduit.Condition.Template
import Conduit.Condition.Token
import Conduit.Connector.Basic
import Conduit.Connector.ControlFlow
import Conduit.Connector.CustomCode
import Conduit.Connector.Http
import Conduit.Connector.Registry
import Conduit.Connector.RemoteTool
import Conduit.Connector.Service
import Conduit.Connector.Tables
import Conduit.Decode
import Conduit.Engine.Basic
import Conduit.Engine.Deployment
import Conduit.Engine.Record
import Conduit.Failure
import Conduit.Fault
import Conduit.Json.Reader
import Conduit.Json.Writer
import Conduit.Location.Basic
import Conduit.Location.Host
import Conduit.Location.Label
import Conduit.Number.Arithmetic
import Conduit.Number.Basic
import Conduit.Number.Complex
import Conduit.Number.Double
import Conduit.Number.Layout
import Conduit.Number.Numeral
import Conduit.Number.Places
import Conduit.Number.Residue
import Conduit.Number.Shortest
import Conduit.Path
import Conduit.Pipeline.Binding
import Conduit.Pipeline.Compile
import Conduit.Pipeline.Listing
import Conduit.Proofs.Connector.Prerequisites
import Conduit.Proofs.Engine.Retention
import Conduit.Proofs.Path
import Conduit.Proofs.Path.Lens
import Conduit.Proofs.Pipeline.Listing
import Conduit.Proofs.Pipeline.Overwrite
import Conduit.Proofs.Pipeline.Sequence
import Conduit.Proofs.Run.Attribution
import Conduit.Proofs.Run.Cancellation
import Conduit.Proofs.Run.Completion
import Conduit.Proofs.Run.FailFast
import Conduit.Proofs.Run.Precedence
import Conduit.Proofs.Run.Protocol
import Conduit.Run.Basic
import Conduit.Run.Clock
import Conduit.Run.Context
import Conduit.Run.Event
import Conduit.Run.Executor
import Conduit.Run.Flight
import Conduit.Run.Outputs
import Conduit.Run.Result
import Conduit.Sample
import Conduit.Schema
import Conduit.Script.Function
import Conduit.Settings
import Conduit.Store.Basic
import Conduit.Store.FileTree
import Conduit.Table.Filter
import Conduit.Table.Merge
import Conduit.Table.Sort
import Conduit.Table.Store
import Conduit.Text.Blank
import Conduit.Text.Bytes
import Conduit.Text.Case
import Conduit.Text.Digit
import Conduit.Text.Encoding
import Conduit.Text.Identifier
import Conduit.Text.Lines
import Conduit.Text.Normal.Basic
import Conduit.Text.Normal.Table
import Conduit.Text.Printable
import Conduit.Text.Punycode
import Conduit.Text.Quoted
import Conduit.Text.Search
import Conduit.Text.Spans
import Conduit.Text.Word
import Conduit.Time.Iso
import Conduit.Time.Moment
import Conduit.Time.Reading
import Conduit.Transform
import Conduit.Value.Basic
import Conduit.Value.Compare
import Conduit.Value.Document
import Conduit.Value.Items
import Conduit.Value.Shown
import Conduit.Workflow.Definition
import Conduit.Workflow.Graph
import Conduit.Workflow.Linear
import Conduit.Workflow.Prerequisites
import Conduit.Proofs.Run.Mirror
import Conduit.Proofs.Engine.Mirror
import Conduit.Proofs.Run.Unheard
import Conduit.Proofs.Run.Stream
import Conduit.Proofs.Run.Closing
import Conduit.Proofs.Value.Document
import Conduit.Proofs.Value.Published
import Conduit.Proofs.Workflow.Document
import Conduit.Proofs.Store.Agreement
import Conduit.Proofs.Json.Text
import Conduit.Proofs.Number.Rounding
import Conduit.Proofs.Number.Shortest
import Conduit.Proofs.Json.Number
import Conduit.Proofs.Json.Double
import Conduit.Proofs.Json.Document
import Conduit.Proofs.Time.Calendar
import Conduit.Proofs.Time.Document
import Conduit.Proofs.Pipeline.Layout
import Conduit.Proofs.Schema
import Conduit.Proofs.Schema.Conformance
import Conduit.Proofs.Pipeline.Demands
import Conduit.Proofs.Table.Sort
import Conduit.Proofs.Connector.Contract
import Conduit.Proofs.Json.Reread
import Conduit.Proofs.Workflow.Outline
import Conduit.Proofs.Store.Sound
import Conduit.Proofs.Engine.Upkeep
import Conduit.Proofs.Api.Result
import Conduit.Proofs.Pipeline.Requirements
import Conduit.Proofs.Pipeline.Guard
import Conduit.Proofs.Run.Discipline
import Conduit.Proofs.Run.Sequential
import Conduit.Workflow.Walk
import Conduit.Proofs.Workflow.Walk
import Conduit.Proofs.Number.Numeral
import Conduit.Proofs.Path.Failure
import Conduit.Proofs.Text.Lines
import Conduit.Proofs.Json.Line
import Conduit.Proofs.Pipeline.Lines
import Conduit.Proofs.Number.Sign
import Conduit.Proofs.Condition.Token
import Conduit.Proofs.Condition.Grammar
import Conduit.Proofs.Condition.Eval
import Conduit.Proofs.Pipeline.Exchange
import Conduit.Proofs.Pipeline.Literal
import Conduit.Proofs.Pipeline.Meaning
import Conduit.Proofs.Number.Exact
import Conduit.Proofs.Value.Equality
import Conduit.Proofs.Table.Weave
import Conduit.Proofs.Table.Merge
import Conduit.Proofs.Table.Order
import Conduit.Proofs.Table.Query
import Conduit.Proofs.Table.Upsert
import Conduit.Proofs.Table.Ids
import Conduit.Proofs.Value.Published
