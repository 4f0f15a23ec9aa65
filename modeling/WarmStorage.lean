import WarmStorage.Address
import WarmStorage.Arbitration
import WarmStorage.Authorization.Message
import WarmStorage.Authorization.SessionKeys
import WarmStorage.Authorization.Signature
import WarmStorage.Authorization.TypedData
import WarmStorage.Bytes
import WarmStorage.Codec.Basic
import WarmStorage.Codec.Config
import WarmStorage.Codec.Event
import WarmStorage.Codec.Ledger
import WarmStorage.Codec.Record
import WarmStorage.Codec.State
import WarmStorage.Codec.Views
import WarmStorage.CommandLine.LogFilter
import WarmStorage.CommandLine.Options
import WarmStorage.CommandLine.Request
import WarmStorage.CommandLine.Run
import WarmStorage.Config
import WarmStorage.DataSet
import WarmStorage.Error
import WarmStorage.Event
import WarmStorage.Hash.Keccak
import WarmStorage.Hash.Sha256
import WarmStorage.Identifier
import WarmStorage.Json.Basic
import WarmStorage.Json.Interruption
import WarmStorage.Json.Numeral
import WarmStorage.Json.Parser
import WarmStorage.Json.Printer
import WarmStorage.Json.Scanner
import WarmStorage.Ledger.Basic
import WarmStorage.Ledger.Key
import WarmStorage.Ledger.Operation
import WarmStorage.Ledger.Rail
import WarmStorage.Main
import WarmStorage.Metadata
import WarmStorage.Pattern.Atom
import WarmStorage.Pattern.Basic
import WarmStorage.Pattern.Check
import WarmStorage.Pattern.Group
import WarmStorage.Pattern.Set
import WarmStorage.Pricing
import WarmStorage.Proofs.Arbitration
import WarmStorage.Proofs.Authorization.Binding
import WarmStorage.Proofs.Authorization.Delegation
import WarmStorage.Proofs.Authorization.Signature
import WarmStorage.Proofs.Authorization.Verification
import WarmStorage.Proofs.Codec.Basic
import WarmStorage.Proofs.Codec.Record
import WarmStorage.Proofs.Codec.State
import WarmStorage.Proofs.Hash.Keccak
import WarmStorage.Proofs.Json.RoundTrip
import WarmStorage.Proofs.Json.Scanner
import WarmStorage.Proofs.Ledger.Admission
import WarmStorage.Proofs.Ledger.Backing
import WarmStorage.Proofs.Ledger.Conservation
import WarmStorage.Proofs.Ledger.Effects
import WarmStorage.Proofs.Ledger.Locality
import WarmStorage.Proofs.Ledger.Numbering
import WarmStorage.Proofs.Ledger.Operations
import WarmStorage.Proofs.Ledger.Rails
import WarmStorage.Proofs.Ledger.Sum
import WarmStorage.Proofs.Ledger.Usage
import WarmStorage.Proofs.Metadata
import WarmStorage.Proofs.Migration
import WarmStorage.Proofs.Migration.Metadata
import WarmStorage.Proofs.Pricing
import WarmStorage.Proofs.Proving.Advance
import WarmStorage.Proofs.Proving.Alignment
import WarmStorage.Proofs.Proving.Exactness
import WarmStorage.Proofs.Proving.Faults
import WarmStorage.Proofs.Proving.Openings
import WarmStorage.Proofs.Proving.PackedSet
import WarmStorage.Proofs.Proving.Periods
import WarmStorage.Proofs.Proving.Run
import WarmStorage.Proofs.Proving.Settlement
import WarmStorage.Proofs.Proving.Share
import WarmStorage.Proofs.Proving.Windows
import WarmStorage.Proofs.Schedule.Connection
import WarmStorage.Proofs.Schedule.Table
import WarmStorage.Proofs.Service.Agreement
import WarmStorage.Proofs.Service.Arbitration
import WarmStorage.Proofs.Service.Atomicity
import WarmStorage.Proofs.Service.Cdn
import WarmStorage.Proofs.Service.Charging
import WarmStorage.Proofs.Service.ClientIds
import WarmStorage.Proofs.Service.Commutation
import WarmStorage.Proofs.Service.Configuration
import WarmStorage.Proofs.Service.Confinement
import WarmStorage.Proofs.Service.Conservation
import WarmStorage.Proofs.Service.Contracts
import WarmStorage.Proofs.Service.Creation
import WarmStorage.Proofs.Service.Dealings
import WarmStorage.Proofs.Service.Deletion
import WarmStorage.Proofs.Service.Effects
import WarmStorage.Proofs.Service.Egress
import WarmStorage.Proofs.Service.Endings
import WarmStorage.Proofs.Service.Failure
import WarmStorage.Proofs.Service.FirstPeriod
import WarmStorage.Proofs.Service.Frozen
import WarmStorage.Proofs.Service.Funding
import WarmStorage.Proofs.Service.Index
import WarmStorage.Proofs.Service.Lifecycle
import WarmStorage.Proofs.Service.Loading
import WarmStorage.Proofs.Service.Metadata
import WarmStorage.Proofs.Service.Obligations
import WarmStorage.Proofs.Service.Owner
import WarmStorage.Proofs.Service.Pending
import WarmStorage.Proofs.Service.Performed
import WarmStorage.Proofs.Service.Pieces
import WarmStorage.Proofs.Service.Proving
import WarmStorage.Proofs.Service.Rails
import WarmStorage.Proofs.Service.Reachable
import WarmStorage.Proofs.Service.Replay
import WarmStorage.Proofs.Service.Respects
import WarmStorage.Proofs.Service.Restart
import WarmStorage.Proofs.Service.Revisions
import WarmStorage.Proofs.Service.Run
import WarmStorage.Proofs.Service.Scope
import WarmStorage.Proofs.Service.Settlement
import WarmStorage.Proofs.Service.Signing
import WarmStorage.Proofs.Service.Soundness
import WarmStorage.Proofs.Service.Status
import WarmStorage.Proofs.Service.Success
import WarmStorage.Proofs.Service.Termination
import WarmStorage.Proofs.Service.TopUp
import WarmStorage.Proofs.Snapshot
import WarmStorage.ProviderRegistry
import WarmStorage.Proving.Periods
import WarmStorage.Proving.Settlement
import WarmStorage.Proving.State
import WarmStorage.Replay
import WarmStorage.Schedule
import WarmStorage.Schedule.Table
import WarmStorage.Secp256k1.Curve
import WarmStorage.Secp256k1.Ecdsa
import WarmStorage.Service.Basic
import WarmStorage.Service.Call
import WarmStorage.Service.Creation
import WarmStorage.Service.Egress
import WarmStorage.Service.Lifecycle
import WarmStorage.Service.Owner
import WarmStorage.Service.Pieces
import WarmStorage.Service.Proving
import WarmStorage.Service.Run
import WarmStorage.Snapshot
import WarmStorage.State
import WarmStorage.Text.Alphanumeric
import WarmStorage.Text.Amount
import WarmStorage.Text.Decimal
import WarmStorage.Text.Hex
import WarmStorage.Text.Quoted
import WarmStorage.Text.Slice
import WarmStorage.Toml.Date
import WarmStorage.Toml.Document
import WarmStorage.Toml.Number
import WarmStorage.Toml.Parser
import WarmStorage.Toml.Text
import WarmStorage.Views
import WarmStorage.Word
