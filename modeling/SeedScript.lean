import SeedScript.Main
import SeedScript.Proofs.Batch.Statements
import SeedScript.Proofs.Batch.Pairs
import SeedScript.Proofs.Batch.RoundTrip
import SeedScript.Proofs.Sql.StrictMode
import SeedScript.Proofs.Column.Kinds
import SeedScript.Proofs.Batch.Columns
import SeedScript.Proofs.Batch.FirstFault
import SeedScript.Proofs.Sql.Inserts
import SeedScript.Proofs.Batch.Headers
import SeedScript.Proofs.Batch.Written
import SeedScript.Proofs.Batch.Concatenation
import SeedScript.Proofs.Batch.Owners
import SeedScript.Proofs.Batch.Dependence
import SeedScript.Proofs.Sql.Checked
import SeedScript.Proofs.Seeder.Runs
import SeedScript.Proofs.Seeder.Modes
import SeedScript.Proofs.Seeder.Digests
import SeedScript.Proofs.Json.Rows
import SeedScript.Proofs.Csv.Quoted
import SeedScript.Proofs.Workbook.TextCells
import SeedScript.Proofs.Source.Tables
import SeedScript.Proofs.Sql.Visits
import SeedScript.Proofs.Source.Sheets
import SeedScript.Proofs.Files
import SeedScript.Proofs.Command.Stages
import SeedScript.Proofs.Seeder.Errors
import SeedScript.Proofs.Command.Overrides
import SeedScript.Proofs.Column.Decoding
import SeedScript.Proofs.Workbook.HeaderWidth
import SeedScript.Proofs.Json.Cells
import SeedScript.Proofs.Config.Fields
import SeedScript.Proofs.Naming.SnakeCase
