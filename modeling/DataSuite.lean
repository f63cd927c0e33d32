import DataSuite.Backend.Call
import DataSuite.Backend.Script
import DataSuite.Catalogue.English
import DataSuite.Catalogue.Japanese
import DataSuite.Catalogue.Language
import DataSuite.Catalogue.Lookup
import DataSuite.Catalogue.Message
import DataSuite.CommandLine.LogFilter
import DataSuite.CommandLine.Options
import DataSuite.CommandLine.Program
import DataSuite.Csv.Reader
import DataSuite.Csv.Table
import DataSuite.Decimal.Binary64
import DataSuite.Decimal.Numeral
import DataSuite.Decimal.Shortest
import DataSuite.Directive
import DataSuite.Expectation
import DataSuite.Failure
import DataSuite.Fault
import DataSuite.FileTree
import DataSuite.Json.Reader
import DataSuite.Log
import DataSuite.Main
import DataSuite.Mismatch
import DataSuite.Path
import DataSuite.Phase
import DataSuite.Plan
import DataSuite.Process
import DataSuite.Proofs.Csv.Quoted
import DataSuite.Proofs.Decimal.Neighbourhood
import DataSuite.Proofs.Decimal.Text
import DataSuite.Proofs.Fallible
import DataSuite.Proofs.Interleaving
import DataSuite.Proofs.Process
import DataSuite.Proofs.Row.Difference
import DataSuite.Proofs.Row.Order
import DataSuite.Proofs.Run.Cases
import DataSuite.Proofs.Run.Course
import DataSuite.Proofs.Run.Foresight
import DataSuite.Proofs.Run.History
import DataSuite.Proofs.Run.Isolation
import DataSuite.Proofs.Run.Phases
import DataSuite.Proofs.Run.SideBySide
import DataSuite.Proofs.Run.Trace
import DataSuite.Proofs.Run.Wording
import DataSuite.Proofs.Sorted
import DataSuite.Proofs.Suite.Spelling
import DataSuite.Proofs.Summary
import DataSuite.Proofs.Value.Members
import DataSuite.Proofs.Value.Number
import DataSuite.Proofs.Value.Order
import DataSuite.Proofs.Value.Text
import DataSuite.Proofs.Verification.OwnTable
import DataSuite.Proofs.Verification.RowOrder
import DataSuite.Proofs.Verification.Spelling
import DataSuite.Proofs.Verification.Target
import DataSuite.Report
import DataSuite.ResultSet
import DataSuite.Row.Basic
import DataSuite.Row.Difference
import DataSuite.Row.Order
import DataSuite.Row.Shape
import DataSuite.Run.Case
import DataSuite.Run.Connection
import DataSuite.Run.Execution
import DataSuite.Run.Phases
import DataSuite.Run.Settings
import DataSuite.Suite.Basic
import DataSuite.Suite.Check
import DataSuite.Suite.Discovery
import DataSuite.Suite.Load
import DataSuite.Suite.Title
import DataSuite.Summary
import DataSuite.Text.Blank
import DataSuite.Text.Hidden
import DataSuite.Text.Quoted
import DataSuite.Text.Split
import DataSuite.Text.Utf8
import DataSuite.Value.Agreement
import DataSuite.Value.Basic
import DataSuite.Value.Number
import DataSuite.Value.Order
import DataSuite.Value.Text
import DataSuite.Verification
import DataSuite.Yaml.Cursor
import DataSuite.Yaml.Document
import DataSuite.Yaml.Node
import DataSuite.Yaml.Scalar
import DataSuite.Yaml.Token
import DataSuite.Proofs.Decimal.Rounding
import DataSuite.Proofs.Value.Exact
import DataSuite.Proofs.Row.Exact
import DataSuite.Proofs.Row.Shape
import DataSuite.Proofs.Value.Numeral
import DataSuite.Proofs.Verification.Integers
import DataSuite.Proofs.Catalogue.Template
import DataSuite.Proofs.Catalogue.Verbatim
import DataSuite.Proofs.CommandLine.Status
import DataSuite.Proofs.Row.Sorting
import DataSuite.Proofs.Places
import DataSuite.Proofs.Row.EachDifference
import DataSuite.Proofs.Verification.ByPlace
import DataSuite.Proofs.Run.Verdicts
import DataSuite.Proofs.Suite.Base
import DataSuite.Proofs.Suite.Description
import DataSuite.Proofs.Suite.Acceptance
import DataSuite.Proofs.Suite.Normal
import DataSuite.Proofs.Run.Loads
import DataSuite.Proofs.Verification.Columns
import DataSuite.Proofs.Plan
import DataSuite.Proofs.Run.Titles
import DataSuite.Proofs.Value.Agreement
import DataSuite.Proofs.Text.Cutting
import DataSuite.Proofs.Path
import DataSuite.Proofs.Suite.Display
import DataSuite.Proofs.FileTree
import DataSuite.Proofs.Suite.Discovery
import DataSuite.Proofs.Text.Sequences
import DataSuite.Proofs.Catalogue.Coloured
import DataSuite.Proofs.Report
