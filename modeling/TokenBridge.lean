import TokenBridge.Call
import TokenBridge.Callback
import TokenBridge.Query
import TokenBridge.Snapshot
import TokenBridge.Store.Operation
import TokenBridge.Proofs.Invariants
import TokenBridge.Proofs.Ownership
import TokenBridge.Proofs.Creation
import TokenBridge.Proofs.Refunds
import TokenBridge.Proofs.Codec
import TokenBridge.Proofs.Moorings
import TokenBridge.Proofs.Network
import TokenBridge.Proofs.Lanes
import TokenBridge.Proofs.Balance
import TokenBridge.Proofs.Conservation
import TokenBridge.Proofs.Custody
import TokenBridge.Proofs.Containment
import TokenBridge.Proofs.Lifecycle
import TokenBridge.Proofs.Redeeming
import TokenBridge.Proofs.Failures
import TokenBridge.Proofs.Transparency
import TokenBridge.Proofs.Answering
import TokenBridge.Proofs.Draining
import TokenBridge.Proofs.Unwinding
import TokenBridge.Proofs.Register
import TokenBridge.Proofs.Matching
import TokenBridge.Proofs.Phases
import TokenBridge.Proofs.Commuting
import TokenBridge.Proofs.Arrivals
import TokenBridge.Proofs.Undoing
import TokenBridge.Proofs.Reclosing
import TokenBridge.Proofs.Presentation
import TokenBridge.Proofs.Hearing
import TokenBridge.Proofs.Rows
import TokenBridge.Proofs.Messages
import TokenBridge.Proofs.Pausing
