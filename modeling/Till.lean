import Till.Boundary.Call
import Till.Boundary.HostText
import Till.Boundary.Status
import Till.Boundary.Thread
import Till.Bounded
import Till.Cart.Basic
import Till.Cart.Line
import Till.Cart.Payment
import Till.Cart.Snapshot
import Till.Catalog.Basic
import Till.Catalog.Document
import Till.Catalog.Item
import Till.Config.Basic
import Till.Config.Environment
import Till.Config.Policy
import Till.Engine.Basic
import Till.Engine.Command
import Till.Fault
import Till.Handle
import Till.Json.Compact
import Till.Json.Number
import Till.Json.Piece
import Till.Json.Record
import Till.Json.Token
import Till.Json.Value
import Till.Money
import Till.Proofs.Boundary.Configuration
import Till.Proofs.Boundary.Errand
import Till.Proofs.Boundary.Failures
import Till.Proofs.Boundary.Generations
import Till.Proofs.Boundary.Handles
import Till.Proofs.Boundary.HostText
import Till.Proofs.Boundary.Loading
import Till.Proofs.Boundary.Moves
import Till.Proofs.Boundary.Precedence
import Till.Proofs.Boundary.Process
import Till.Proofs.Boundary.Queries
import Till.Proofs.Boundary.Replies
import Till.Proofs.Boundary.Restart
import Till.Proofs.Boundary.Scripts
import Till.Proofs.Boundary.Selling
import Till.Proofs.Boundary.Shift
import Till.Proofs.Boundary.Starting
import Till.Proofs.Boundary.Texts
import Till.Proofs.Cart.Adding
import Till.Proofs.Cart.Batches
import Till.Proofs.Cart.Changes
import Till.Proofs.Cart.Operations
import Till.Proofs.Cart.Orders
import Till.Proofs.Cart.Snapshot
import Till.Proofs.Cart.Totals
import Till.Proofs.Cart.WellFormed
import Till.Proofs.Catalog.Acceptance
import Till.Proofs.Catalog.Construction
import Till.Proofs.Catalog.Lookup
import Till.Proofs.Catalog.RoundTrip
import Till.Proofs.Catalog.Schema
import Till.Proofs.Catalog.Text
import Till.Proofs.Config.Environment
import Till.Proofs.Config.Policy
import Till.Proofs.Engine.Accounts
import Till.Proofs.Engine.Adding
import Till.Proofs.Engine.Entries
import Till.Proofs.Engine.Independence
import Till.Proofs.Engine.IntegerFields
import Till.Proofs.Engine.Kinds
import Till.Proofs.Engine.Ledger
import Till.Proofs.Engine.Live
import Till.Proofs.Engine.Request
import Till.Proofs.Engine.Shift
import Till.Proofs.Engine.Successor
import Till.Proofs.Engine.Tenders
import Till.Proofs.Engine.WellFormed
import Till.Proofs.Json.Fields
import Till.Proofs.Json.Grammar
import Till.Proofs.Json.Notation
import Till.Proofs.Json.Numerals
import Till.Proofs.Json.Reading
import Till.Proofs.Json.Recognition
import Till.Proofs.Json.Scanning
import Till.Proofs.Json.Strings
import Till.Proofs.Json.Writing
import Till.Proofs.Outcome
import Till.Proofs.Records
import Till.Proofs.Refusal
import Till.Proofs.Registry.Generations
import Till.Proofs.Registry.Issuable
import Till.Proofs.Registry.Runs
import Till.Proofs.Registry.Shift
import Till.Proofs.Registry.Slots
import Till.Proofs.Registry.WellFormed
import Till.Proofs.Text.Blank
import Till.Proofs.Text.LetterCase
import Till.Refusal
import Till.Registry
import Till.Rules
import Till.Text.Blank
import Till.Text.CaseTable
import Till.Text.Decimal
import Till.Text.Lowercase
