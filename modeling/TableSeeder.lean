import TableSeeder.Members
import TableSeeder.Value
import TableSeeder.Number.Binary
import TableSeeder.Number.Shortest
import TableSeeder.Number.Plain
import TableSeeder.Number.Rounded
import TableSeeder.Number.Reading
import TableSeeder.Text.Characters
import TableSeeder.Text.Printable
import TableSeeder.Text.Quoted
import TableSeeder.Value.Slot
import TableSeeder.Value.Shown
import TableSeeder.Value.Json
import TableSeeder.Text.Terminal
import TableSeeder.Validation
import TableSeeder.Record
import TableSeeder.Text.Template.Directive
import TableSeeder.Text.Template
import TableSeeder.Interval
import TableSeeder.Incident
import TableSeeder.Failure
import TableSeeder.Log.Level
import TableSeeder.Log.Record
import TableSeeder.Log.Calendar
import TableSeeder.Log.Setup
import TableSeeder.Table.Attribute
import TableSeeder.World
import TableSeeder.Load
import TableSeeder.Batch
import TableSeeder.Table.Client
import TableSeeder.Region
import TableSeeder.Endpoint
import TableSeeder.Registry
import TableSeeder.Credentials
import TableSeeder.Text.Dotenv
import TableSeeder.Settings.Reading
import TableSeeder.Settings.Source
import TableSeeder.Settings
import TableSeeder.Session
import TableSeeder.Text.Similar
import TableSeeder.Cli.Arguments
import TableSeeder.Cli.Execution
import TableSeeder.Main
import TableSeeder.Proofs.Outcomes
import TableSeeder.Proofs.Surroundings
import TableSeeder.Proofs.UpToFailure
import TableSeeder.Proofs.Load.Rounds
import TableSeeder.Proofs.Load.Runs
import TableSeeder.Proofs.Load.Unfolding
import TableSeeder.Proofs.Load.History
import TableSeeder.Proofs.Load.Accounting
import TableSeeder.Proofs.Batch.Requests
import TableSeeder.Proofs.Batch.Unfolding
import TableSeeder.Proofs.Load.Guard
import TableSeeder.Proofs.Registry.Steps
import TableSeeder.Proofs.Registry.History
import TableSeeder.Proofs.Settings.Variables
import TableSeeder.Proofs.Settings.Precedence
import TableSeeder.Proofs.Calls
import TableSeeder.Proofs.Log.Writing
import TableSeeder.Proofs.Invariance
import TableSeeder.Proofs.Cli.Presentation
import TableSeeder.Proofs.Cli.Refusals
import TableSeeder.Proofs.Cli.Cancelling
import TableSeeder.Proofs.Load.Settling
import TableSeeder.Proofs.Number.Decimal
import TableSeeder.Proofs.Table.Numbers
import TableSeeder.Proofs.Table.Leaves
import TableSeeder.Proofs.Table.Requests
import TableSeeder.Proofs.Table.Decoding
import TableSeeder.Proofs.Table.Writes
import TableSeeder.Proofs.Table.Rejections
import TableSeeder.Proofs.Batch.Serving
import TableSeeder.Proofs.Skipping
import TableSeeder.Proofs.Table.Skipping
import TableSeeder.Proofs.Credentials
import TableSeeder.Proofs.Cli.Bounds
import TableSeeder.Proofs.Cli.Service
import TableSeeder.Proofs.Cli.Loading
import TableSeeder.Proofs.Cli.Filling
import TableSeeder.Proofs.Cli.Relogging
import TableSeeder.Proofs.Cli.Console
import TableSeeder.Proofs.Session.Settings
import TableSeeder.Proofs.Record.Validation
import TableSeeder.Proofs.Json.Reader
import TableSeeder.Proofs.Json.Texts
import TableSeeder.Proofs.Members
import TableSeeder.Proofs.Json.RoundTrip
import TableSeeder.Proofs.Log.Line
import TableSeeder.Proofs.Record.Wire
import TableSeeder.Proofs.Sending
import TableSeeder.Proofs.Distinctness
import TableSeeder.Proofs.Log.Configuration
import TableSeeder.Proofs.Number.Numeral
import TableSeeder.Proofs.Number.Stripped
import TableSeeder.Proofs.Number.Grammar
import TableSeeder.Proofs.Settings.Counts
