import ConnectionPooling.Time
import ConnectionPooling.Text.Blank
import ConnectionPooling.Text.Quoted
import ConnectionPooling.Text.Shown
import ConnectionPooling.Fingerprint
import ConnectionPooling.Statistics
import ConnectionPooling.Connection.Request
import ConnectionPooling.Connection.DataSource
import ConnectionPooling.Pool.Checkout
import ConnectionPooling.Pool.Return
import ConnectionPooling.World.Basic
import ConnectionPooling.Session.Pool
import ConnectionPooling.Session.Source
import ConnectionPooling.Config.File
import ConnectionPooling.Toml.Moment
import ConnectionPooling.Toml.Tree
import ConnectionPooling.Config.Toml
import ConnectionPooling.Session.Policy
import ConnectionPooling.Proofs.Holding
import ConnectionPooling.Proofs.Checkout
import ConnectionPooling.Proofs.Capacity
import ConnectionPooling.Proofs.Return
import ConnectionPooling.Proofs.Run
import ConnectionPooling.Proofs.Soundness
import ConnectionPooling.Proofs.Ownership
import ConnectionPooling.Proofs.Sleepers
import ConnectionPooling.Proofs.Handles
import ConnectionPooling.Proofs.Moves
import ConnectionPooling.Proofs.Upkeep
import ConnectionPooling.Proofs.Turns
import ConnectionPooling.Proofs.History
import ConnectionPooling.Proofs.Operations
import ConnectionPooling.Proofs.Barrier
import ConnectionPooling.Proofs.Tenure
import ConnectionPooling.Proofs.Handover
import ConnectionPooling.Proofs.Credentials
import ConnectionPooling.Proofs.Queue
import ConnectionPooling.Proofs.Closing
import ConnectionPooling.Proofs.Relay
import ConnectionPooling.Proofs.Accounting
import ConnectionPooling.Proofs.Rotation
import ConnectionPooling.Proofs.Ledger
import ConnectionPooling.Proofs.Stays
import ConnectionPooling.Proofs.Conservation
import ConnectionPooling.Proofs.Resemblance
import ConnectionPooling.Proofs.Secrecy
import ConnectionPooling.Proofs.Lines
import ConnectionPooling.Proofs.RoundTrip
import ConnectionPooling.Proofs.Calls
import ConnectionPooling.Proofs.Retries
import ConnectionPooling.Proofs.Failure
import ConnectionPooling.Proofs.Overdue
import ConnectionPooling.Proofs.Decision
import ConnectionPooling.Proofs.Inert
import ConnectionPooling.Proofs.Clearing
import ConnectionPooling.Proofs.LastUse
import ConnectionPooling.Proofs.Gate
import ConnectionPooling.Proofs.Waits
import ConnectionPooling.Proofs.Encoding
import ConnectionPooling.Proofs.Opening
import ConnectionPooling.Proofs.Validity
import ConnectionPooling.Proofs.Reuse
import ConnectionPooling.Proofs.Identity
