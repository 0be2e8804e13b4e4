import Drafting.Binding
import Drafting.CommandLine
import Drafting.Decimal.Binary
import Drafting.Decimal.Fixed
import Drafting.Decimal.Layout
import Drafting.Decimal.Numeral
import Drafting.Decimal.Reading
import Drafting.Decimal.Rounding
import Drafting.Decimal.Shortest
import Drafting.Document
import Drafting.Document.Read
import Drafting.Document.Written
import Drafting.Expression
import Drafting.Expression.Symbols
import Drafting.Fault
import Drafting.FileTree
import Drafting.Geometry.Box
import Drafting.Geometry.Feature
import Drafting.Json.Basic
import Drafting.Json.Field
import Drafting.Json.Number
import Drafting.Json.Outline
import Drafting.Json.Quoted
import Drafting.Json.Token
import Drafting.Json.Written
import Drafting.Main
import Drafting.Proofs.Changes
import Drafting.Proofs.FailedRows
import Drafting.Proofs.Json.Numerals
import Drafting.Proofs.Json.Strings
import Drafting.Proofs.Plans
import Drafting.Proofs.Rows
import Drafting.Report
import Drafting.Row
import Drafting.Scene
import Drafting.Scene.Request
import Drafting.Session
import Drafting.Settings
import Drafting.Shape
import Drafting.Source
import Drafting.Statement
import Drafting.Statement.Change
import Drafting.Statement.Error
import Drafting.Statement.Plan
import Drafting.Style
import Drafting.Summary
import Drafting.Text.Blank
import Drafting.Text.Pieces
import Drafting.Text.Quoted
import Drafting.Text.Unprinted
import Drafting.Toml.Basic
import Drafting.Toml.Quoted
import Drafting.Toml.Read
import Drafting.Toml.Scalar
import Drafting.Proofs.Json.Tokens
import Drafting.Proofs.Json.Outlines
import Drafting.Proofs.Decimal.Finite
import Drafting.Proofs.Json.Fields
import Drafting.Proofs.Rereading
import Drafting.Proofs.RoundTrip
import Drafting.Proofs.SoundRuns
import Drafting.Proofs.History
import Drafting.Proofs.Pages
import Drafting.Proofs.LastWriters
import Drafting.Proofs.Accounting
import Drafting.Proofs.MoreSymbols
import Drafting.Proofs.Definitions
import Drafting.Proofs.Decimal.Order
import Drafting.Proofs.Guarantees
import Drafting.Proofs.Resuming
import Drafting.Proofs.Independence
import Drafting.Proofs.Overrides
import Drafting.Proofs.Trimming
import Drafting.Proofs.Layout
import Drafting.Proofs.Hiding
import Drafting.Proofs.Understanding
import Drafting.Proofs.Visibility
import Drafting.Proofs.Json.Members
import Drafting.Proofs.LooseReading
import Drafting.Proofs.Decimal.Nearest
import Drafting.Proofs.Decimal.Steps
import Drafting.Proofs.Decimal.Sums
import Drafting.Proofs.Hulls
import Drafting.Proofs.Chains
import Drafting.Proofs.Decimal.Differences
import Drafting.Proofs.Literals
import Drafting.Proofs.LongerChains
import Drafting.Proofs.Naming
import Drafting.Proofs.Positions
import Drafting.Proofs.Spelling
import Drafting.Proofs.Bindings
import Drafting.Proofs.Fields
import Drafting.Proofs.NamedFields
import Drafting.Proofs.Slots
import Drafting.Proofs.Accumulation
import Drafting.Proofs.Containment
import Drafting.Proofs.Hits
import Drafting.Proofs.Decimal.WholeFloats
import Drafting.Proofs.WholeNumbers
import Drafting.Proofs.OneLine
import Drafting.Proofs.Messages
import Drafting.Proofs.SummaryLines
