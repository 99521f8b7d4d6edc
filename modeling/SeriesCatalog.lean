import SeriesCatalog.Main
import SeriesCatalog.Service
import SeriesCatalog.Client
import SeriesCatalog.Transport.Script
import SeriesCatalog.Proofs.Ascending
import SeriesCatalog.Proofs.Text.Cut
import SeriesCatalog.Proofs.Path.Order
import SeriesCatalog.Proofs.Path.Pattern
import SeriesCatalog.Proofs.Statement.Form
import SeriesCatalog.Proofs.Statement.Made
import SeriesCatalog.Proofs.Tree.Invariant
import SeriesCatalog.Proofs.Tree.Reachable
import SeriesCatalog.Proofs.Json.Number
import SeriesCatalog.Proofs.Json.Scan
import SeriesCatalog.Proofs.Text.Utf8
import SeriesCatalog.Proofs.Text.Percent
import SeriesCatalog.Proofs.Number.Bounded
import SeriesCatalog.Proofs.Json.ReadBack
import SeriesCatalog.Proofs.Service.Reply
import SeriesCatalog.Proofs.DataSet.ReadBack
import SeriesCatalog.Proofs.Tree.Answers
import SeriesCatalog.Proofs.Service.Connected
import SeriesCatalog.Proofs.Client.Agreement
import SeriesCatalog.Proofs.Dialect.Names
import SeriesCatalog.Proofs.Dialect.Rows
import SeriesCatalog.Proofs.Service.Introspection
import SeriesCatalog.Proofs.Scenario.Protocol
import SeriesCatalog.Proofs.Tree.Edit
import SeriesCatalog.Proofs.Scenario.Setup
import SeriesCatalog.Proofs.Scenario.Restored
import SeriesCatalog.Proofs.ServerUrl.ReadBack
import SeriesCatalog.Proofs.Dialect.Confined
import SeriesCatalog.Proofs.Tree.Effect
import SeriesCatalog.Proofs.Service.Access
import SeriesCatalog.Proofs.DataSet.Lossless
import SeriesCatalog.Proofs.Tree.History
import SeriesCatalog.Proofs.Text.Base64
import SeriesCatalog.Proofs.Service.Credentials
import SeriesCatalog.Proofs.Engine.Recorded
import SeriesCatalog.Proofs.Scenario.Conversation
import SeriesCatalog.Proofs.Engine.Catalog
import SeriesCatalog.Proofs.Engine.Logged
import SeriesCatalog.Proofs.Client.History
import SeriesCatalog.Proofs.Client.Disposal
import SeriesCatalog.Proofs.Client.Books
import SeriesCatalog.Proofs.Transport.Failed
import SeriesCatalog.Proofs.ServerUrl.Masked
import SeriesCatalog.Proofs.Statement.Single
import SeriesCatalog.Proofs.Tree.Undone
import SeriesCatalog.Proofs.Dialect.Visits
import SeriesCatalog.Proofs.Service.Coverage
import SeriesCatalog.Proofs.Service.Lookup
import SeriesCatalog.Proofs.CommandLine.Logged
import SeriesCatalog.Proofs.Tree.Listing
import SeriesCatalog.Proofs.Tree.Selection
import SeriesCatalog.Proofs.Tree.Sequence
import SeriesCatalog.Proofs.Tree.Reordering
import SeriesCatalog.Proofs.Tree.Admission
import SeriesCatalog.Proofs.Text.Letter
import SeriesCatalog.Proofs.Statement.Layout
import SeriesCatalog.Proofs.Statement.Paths
import SeriesCatalog.Proofs.ServerUrl.Grammar
import SeriesCatalog.Proofs.Service.ColumnNames
import SeriesCatalog.Proofs.Settings.Overrides
import SeriesCatalog.Proofs.Text.Words
import SeriesCatalog.Proofs.Statement.Declarations
import SeriesCatalog.Proofs.Path.Bytes
import SeriesCatalog.Proofs.Registry
