import ClusterConsole.Text.Utf8
import ClusterConsole.Text.Blank
import ClusterConsole.Text.Quoted
import ClusterConsole.Number.Decimal
import ClusterConsole.Number.Binary64
import ClusterConsole.Number.Notation
import ClusterConsole.Time.Rfc3339
import ClusterConsole.Time.Display
import ClusterConsole.Json.Value
import ClusterConsole.Node.Document
import ClusterConsole.Node.ErrorReport
import ClusterConsole.Table.Html
import ClusterConsole.Table.Plain
import ClusterConsole.Url.Percent
import ClusterConsole.Url.Address
import ClusterConsole.Url.Parser
import ClusterConsole.Registry.Client
import ClusterConsole.Settings.Environment
import ClusterConsole.View.Run
import ClusterConsole.Server.Router
import ClusterConsole.Server.Start
import ClusterConsole.Listing.Command
import ClusterConsole.Main
import ClusterConsole.Node.IdList
import ClusterConsole.Proofs.View.Collection
import ClusterConsole.Proofs.View.Stale
import ClusterConsole.Proofs.Time.Instant
import ClusterConsole.Proofs.Node.Document
import ClusterConsole.Proofs.View.Generation
import ClusterConsole.Proofs.Table.Html
import ClusterConsole.Proofs.Registry.Client
import ClusterConsole.Proofs.View.Announcement
import ClusterConsole.Proofs.View.Unmounted
import ClusterConsole.Proofs.View.Settled
import ClusterConsole.Proofs.View.Calls
import ClusterConsole.Proofs.View.Begun
import ClusterConsole.Proofs.View.Anew
import ClusterConsole.Proofs.View.Failure
import ClusterConsole.Proofs.Node.ErrorReport
import ClusterConsole.Proofs.Registry.Interpret
import ClusterConsole.Proofs.Server.Reply
import ClusterConsole.Proofs.View.Relisted
import ClusterConsole.Proofs.Server.PageLoad
import ClusterConsole.Proofs.Toml.Entries
import ClusterConsole.Proofs.Toml.Statement
import ClusterConsole.Proofs.Settings.Load
import ClusterConsole.Proofs.Time.Calendar
import ClusterConsole.Proofs.Time.WallClock
import ClusterConsole.Proofs.Time.Display
import ClusterConsole.Proofs.Node.Created
import ClusterConsole.Proofs.Toml.Written
import ClusterConsole.Proofs.Number.Rounding
import ClusterConsole.Proofs.Number.Value
import ClusterConsole.Proofs.Node.Value
import ClusterConsole.Proofs.Json.Literal
import ClusterConsole.Proofs.Node.Literal
import ClusterConsole.Proofs.Table.Plain
import ClusterConsole.Proofs.Listing.Agreement
import ClusterConsole.Proofs.Node.Fraction
import ClusterConsole.Proofs.Node.Listed
import ClusterConsole.Proofs.Node.Alike
import ClusterConsole.Proofs.Registry.Identifier
import ClusterConsole.Proofs.Registry.Base
import ClusterConsole.Proofs.Server.NodePage
import ClusterConsole.Proofs.View.Attended
import ClusterConsole.Proofs.Table.Lines
import ClusterConsole.Proofs.Table.Width
import ClusterConsole.Proofs.Settings.Address
import ClusterConsole.Proofs.Listing.CommandLine
import ClusterConsole.Proofs.Settings.File
import ClusterConsole.Proofs.View.Numbered
import ClusterConsole.Proofs.Table.Entity
