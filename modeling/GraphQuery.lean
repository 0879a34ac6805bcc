import GraphQuery.Binary.Basic
import GraphQuery.Binary.Format
import GraphQuery.Binary.Reader
import GraphQuery.Binary.Shortest
import GraphQuery.Binary.Text
import GraphQuery.Bindings
import GraphQuery.Config
import GraphQuery.Config.Document
import GraphQuery.Config.File
import GraphQuery.Error
import GraphQuery.Fields
import GraphQuery.Fields.Lemmas
import GraphQuery.Integer
import GraphQuery.Json
import GraphQuery.Name
import GraphQuery.Name.Check
import GraphQuery.Name.Parameter
import GraphQuery.Proofs.Acceptance
import GraphQuery.Proofs.Binary.Exact
import GraphQuery.Proofs.Bindings
import GraphQuery.Proofs.Bindings.Agreement
import GraphQuery.Proofs.Bindings.Merge
import GraphQuery.Proofs.Bindings.Operation
import GraphQuery.Proofs.Bindings.Renaming
import GraphQuery.Proofs.Capture
import GraphQuery.Proofs.Compile
import GraphQuery.Proofs.Composition
import GraphQuery.Proofs.Condition
import GraphQuery.Proofs.Config
import GraphQuery.Proofs.Conflict
import GraphQuery.Proofs.Conflict.Leaf
import GraphQuery.Proofs.Conflict.Part
import GraphQuery.Proofs.Conflict.Render
import GraphQuery.Proofs.Contract.Check
import GraphQuery.Proofs.Contract.Part
import GraphQuery.Proofs.Contract.Render
import GraphQuery.Proofs.Erasure
import GraphQuery.Proofs.Fields.Lookup
import GraphQuery.Proofs.Location
import GraphQuery.Proofs.Name
import GraphQuery.Proofs.Name.Parameter
import GraphQuery.Proofs.Name.Renumber
import GraphQuery.Proofs.Name.Semantic
import GraphQuery.Proofs.Name.Written
import GraphQuery.Proofs.Place
import GraphQuery.Proofs.Predicate.Custom
import GraphQuery.Proofs.Predicate.Plain
import GraphQuery.Proofs.Predicate.Reading
import GraphQuery.Proofs.Quoting
import GraphQuery.Proofs.Record.Binding
import GraphQuery.Proofs.Record.Canonical
import GraphQuery.Proofs.Record.Columns
import GraphQuery.Proofs.Record.Complete
import GraphQuery.Proofs.Record.Conforming
import GraphQuery.Proofs.Record.Conversion
import GraphQuery.Proofs.Record.Declared
import GraphQuery.Proofs.Record.Fault
import GraphQuery.Proofs.Record.Moment
import GraphQuery.Proofs.Record.Normal
import GraphQuery.Proofs.Record.Order
import GraphQuery.Proofs.Record.Partition
import GraphQuery.Proofs.Record.Readable
import GraphQuery.Proofs.Record.Reflexive
import GraphQuery.Proofs.Record.RoundTrip
import GraphQuery.Proofs.Record.Sources
import GraphQuery.Proofs.Record.Supplied
import GraphQuery.Proofs.Record.Unique
import GraphQuery.Proofs.Record.Vectors
import GraphQuery.Proofs.Record.Width
import GraphQuery.Proofs.Record.Writers
import GraphQuery.Proofs.Renumbering
import GraphQuery.Proofs.Replay.Leaf
import GraphQuery.Proofs.Replay.Part
import GraphQuery.Proofs.Replay.Render
import GraphQuery.Proofs.Restating
import GraphQuery.Proofs.Scope
import GraphQuery.Proofs.Search
import GraphQuery.Proofs.Session
import GraphQuery.Proofs.Statement.Entries
import GraphQuery.Proofs.Statement.Number
import GraphQuery.Proofs.Statement.Reading
import GraphQuery.Proofs.Statement.Renaming
import GraphQuery.Proofs.Statement.Token
import GraphQuery.Proofs.Template
import GraphQuery.Proofs.Template.Clause
import GraphQuery.Proofs.Template.Erasure
import GraphQuery.Proofs.Template.Leaf
import GraphQuery.Proofs.Template.Parameter
import GraphQuery.Proofs.Template.Part
import GraphQuery.Proofs.Template.Place
import GraphQuery.Proofs.Template.Query
import GraphQuery.Proofs.Template.Render
import GraphQuery.Proofs.Template.Renumber
import GraphQuery.Proofs.Template.Search
import GraphQuery.Proofs.Template.Written
import GraphQuery.Proofs.Text.Digits
import GraphQuery.Proofs.Text.Hex
import GraphQuery.Proofs.Text.Replace
import GraphQuery.Proofs.Text.Run
import GraphQuery.Proofs.Text.Substitute
import GraphQuery.Proofs.Time.Date
import GraphQuery.Proofs.Time.Timestamp
import GraphQuery.Proofs.Uuid
import GraphQuery.Proofs.Value.Equality
import GraphQuery.Proofs.Value.Json
import GraphQuery.Proofs.Value.Reflexivity
import GraphQuery.Proofs.WellFormed
import GraphQuery.Query.Compile
import GraphQuery.Query.Leaf
import GraphQuery.Query.Pattern
import GraphQuery.Query.Placeholder
import GraphQuery.Query.Record
import GraphQuery.Query.Reference
import GraphQuery.Query.Render
import GraphQuery.Query.Scope
import GraphQuery.Query.Symbol
import GraphQuery.Query.Tree
import GraphQuery.Query.VectorSearch
import GraphQuery.Record.Coerce
import GraphQuery.Record.Decode
import GraphQuery.Record.DecodeError
import GraphQuery.Record.Encode
import GraphQuery.Record.Path
import GraphQuery.Record.Row
import GraphQuery.Record.Shape
import GraphQuery.Regex
import GraphQuery.Regex.Class
import GraphQuery.Regex.Escape
import GraphQuery.Regex.Property
import GraphQuery.Regex.Scan
import GraphQuery.Schema
import GraphQuery.Schema.Kind
import GraphQuery.Session
import GraphQuery.Text.Alphabetic
import GraphQuery.Text.Basic
import GraphQuery.Text.Character
import GraphQuery.Text.Digits
import GraphQuery.Text.Letter
import GraphQuery.Time.Date
import GraphQuery.Time.Timestamp
import GraphQuery.Uuid
import GraphQuery.Value
import GraphQuery.Value.Json
import GraphQuery.Value.Text
