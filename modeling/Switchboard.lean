import Switchboard.Columns.Schema
import Switchboard.Directory.Backend
import Switchboard.Directory.Operation
import Switchboard.Gateway.Action
import Switchboard.Jid.Basic
import Switchboard.Json.Printer
import Switchboard.Json.Reader
import Switchboard.Json.Record
import Switchboard.Network.SocketAddress
import Switchboard.Server.Api
import Switchboard.Server.Startup
import Switchboard.Proofs.Columns.Contents
import Switchboard.Proofs.Columns.Table
import Switchboard.Proofs.Columns.Keyspace
import Switchboard.Proofs.Directory.Replicated.Access
import Switchboard.Proofs.Directory.Replicated.Codec
import Switchboard.Proofs.Directory.Records
import Switchboard.Proofs.Directory.Replicated.Nodes
import Switchboard.Proofs.Directory.Replicated.Calls
import Switchboard.Proofs.Directory.Replicated.Applications
import Switchboard.Proofs.Directory.Replicated.Clients
import Switchboard.Proofs.Columns.Schema
import Switchboard.Proofs.Directory.Replicated.Opening
import Switchboard.Proofs.Directory.Refusal
import Switchboard.Proofs.Directory.Replicated.History
import Switchboard.Proofs.Directory.Replicated.Consistency
import Switchboard.Proofs.Directory.Replicated.Platforms
import Switchboard.Proofs.Directory.Replicated.Roundtrip
import Switchboard.Proofs.Directory.Memory.Listing
import Switchboard.Proofs.Directory.Memory.Nodes
import Switchboard.Proofs.Directory.Memory.Calls
import Switchboard.Proofs.Directory.Memory.Applications
import Switchboard.Proofs.Directory.Mirror.Basic
import Switchboard.Proofs.Directory.Mirror.Nodes
import Switchboard.Proofs.Directory.Mirror.Calls
import Switchboard.Proofs.Directory.Mirror.Applications
import Switchboard.Proofs.Directory.Equivalence
import Switchboard.Proofs.Directory.Memory.History
import Switchboard.Proofs.Directory.Memory.Lookups
import Switchboard.Proofs.Directory.Memory.Removals
import Switchboard.Proofs.Directory.Holding
import Switchboard.Proofs.Gateway.Selection
import Switchboard.Proofs.Gateway.Blacklist
import Switchboard.Proofs.Gateway.Mirror
import Switchboard.Proofs.Server.Equivalence
import Switchboard.Proofs.Directory.Replicated.Tombstones
import Switchboard.Proofs.Directory.Unfailing
import Switchboard.Proofs.Directory.Bindings
import Switchboard.Proofs.Directory.Memory.Clients
import Switchboard.Proofs.Directory.Clients
import Switchboard.Proofs.Gateway.Preserved
import Switchboard.Proofs.Gateway.Clients
import Switchboard.Proofs.Columns.Described
import Switchboard.Proofs.Columns.Stages
import Switchboard.Proofs.Columns.History
import Switchboard.Proofs.Columns.Batches
import Switchboard.Proofs.Columns.Tombstones
import Switchboard.Proofs.Columns.Lifetime
import Switchboard.Proofs.Directory.Replicated.Preparation
import Switchboard.Proofs.Directory.NodeCommands
import Switchboard.Proofs.Gateway.Health
import Switchboard.Proofs.Server.Authorisation
import Switchboard.Proofs.Directory.Listings
import Switchboard.Proofs.Gateway.Dispatch
import Switchboard.Proofs.Gateway.Bookkeeping
import Switchboard.Proofs.Gateway.Exhaustion
import Switchboard.Proofs.Gateway.Exactness
import Switchboard.Proofs.Gateway.Fairness
import Switchboard.Proofs.Directory.Failing
import Switchboard.Proofs.Directory.WriteBack
import Switchboard.Proofs.Gateway.ClientPlatform
import Switchboard.Proofs.Gateway.BlacklistOutcomes
import Switchboard.Proofs.Directory.Replicated.Traversal
import Switchboard.Proofs.Json.Literal
import Switchboard.Proofs.Jid.Grammar
import Switchboard.Proofs.Jid.Derived
import Switchboard.Proofs.Columns.Rewriting
import Switchboard.Proofs.Directory.Replacement
import Switchboard.Proofs.Directory.Enrolment
import Switchboard.Proofs.Gateway.Resources
import Switchboard.Proofs.Server.Settings
import Switchboard.Proofs.Server.Bans
import Switchboard.Proofs.Directory.Memory.Order
