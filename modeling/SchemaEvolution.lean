import SchemaEvolution.Json.Parser
import SchemaEvolution.Main
import SchemaEvolution.Proofs.Decimal.Digits
import SchemaEvolution.Proofs.Keyword.FirstMatch
import SchemaEvolution.Proofs.Keyword.Respelling
import SchemaEvolution.Proofs.Text.Blank
import SchemaEvolution.Proofs.Text.LetterCase
import SchemaEvolution.Proofs.ColumnType.Grammar
import SchemaEvolution.Proofs.ColumnType.Reading
import SchemaEvolution.Proofs.ColumnType.Sql
import SchemaEvolution.Proofs.ReferentialAction.Reading
import SchemaEvolution.Proofs.Document.RoundTrip
import SchemaEvolution.Proofs.Plan.Views
import SchemaEvolution.Proofs.Schema.Effect
import SchemaEvolution.Proofs.Schema.Undo
import SchemaEvolution.Proofs.Column.PrimaryKey
import SchemaEvolution.Proofs.Column.Calls
import SchemaEvolution.Proofs.Document.Entry
import SchemaEvolution.Proofs.Document.ColumnEntry
import SchemaEvolution.Proofs.Json.KeyOrder
import SchemaEvolution.Proofs.Toml.KeyOrder
import SchemaEvolution.Proofs.Document.ColumnTable
import SchemaEvolution.Proofs.Document.KeyOrder
import SchemaEvolution.Proofs.Document.Extension
import SchemaEvolution.Proofs.Document.Form
import SchemaEvolution.Proofs.Document.Written
import SchemaEvolution.Proofs.Document.UnknownKey
import SchemaEvolution.Proofs.Plan.Composition
import SchemaEvolution.Proofs.Plan.Warning
import SchemaEvolution.Proofs.Plan.Check
import SchemaEvolution.Proofs.Calls
import SchemaEvolution.Proofs.Table.Calls
import SchemaEvolution.Proofs.Column.NormalForm
import SchemaEvolution.Proofs.Statement.Ending
import SchemaEvolution.Proofs.Settings.Script
import SchemaEvolution.Proofs.Settings.Document
import SchemaEvolution.Proofs.Settings.Source
import SchemaEvolution.Proofs.Json.Texts
import SchemaEvolution.Proofs.CommandLine.Job
import SchemaEvolution.Proofs.CommandLine.NewPlan
import SchemaEvolution.Proofs.CommandLine.Script
import SchemaEvolution.Proofs.CommandLine.Arguments
import SchemaEvolution.Proofs.CommandLine.Switches
import SchemaEvolution.Proofs.Calendar
import SchemaEvolution.Proofs.Text.Order
import SchemaEvolution.Proofs.Decimal.Order
import SchemaEvolution.Proofs.Plan.Stamp
import SchemaEvolution.Proofs.Toml.Lines
import SchemaEvolution.Proofs.Plan.Content
import SchemaEvolution.Proofs.Document.Written
