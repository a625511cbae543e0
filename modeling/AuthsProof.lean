import AuthsProof.Limits
import AuthsProof.Lib.Threshold
import AuthsProof.Outcome
import AuthsProof.Plan
import AuthsProof.Composition
import AuthsProof.PlanSemantics
import AuthsProof.Statement
import AuthsProof.Anchor
import AuthsProof.Authority
import AuthsProof.Lib.Attenuation
import AuthsProof.AuthorityChain
import AuthsProof.Approval
import AuthsProof.ApprovalLaws
import AuthsProof.AuthorScope
import AuthsProof.Budget
import AuthsProof.ContextChange
import AuthsProof.Exchange.Channel
import AuthsProof.ExtensionLaws
import AuthsProof.Gateway.Admission
import AuthsProof.Gateway.Allocations
import AuthsProof.Gateway.Bounds
import AuthsProof.Gateway.Capacity
import AuthsProof.Gateway.Ceiling
import AuthsProof.Gateway.Commissioning
import AuthsProof.Gateway.Leases
import AuthsProof.Gateway.Order
import AuthsProof.Gateway.OrderHistory
import AuthsProof.Gateway.Windows
import AuthsProof.Lib.Checked
import AuthsProof.Lib.Cursor
import AuthsProof.Lib.Merkle
import AuthsProof.Lib.SortedMap
import AuthsProof.Lib.Text
import AuthsProof.Lifecycle.Capacity
import AuthsProof.Lifecycle.Database
import AuthsProof.Oidc.Identity
import AuthsProof.Resolution
import AuthsProof.Sigstore.Identity
import AuthsProof.Sigstore.Merkle
import AuthsProof.StatusIsolation
import AuthsProof.UnrelatedAnchors
import AuthsProof.Workload
import AuthsProof.AssuranceLaws
import AuthsProof.AssuranceOrder
import AuthsProof.Gateway.Separation
import AuthsProof.Gateway.Tightening
import AuthsProof.Keri.VerificationMethod
import AuthsProof.Lib.Arrange
import AuthsProof.Lib.BigEndian
import AuthsProof.Lib.Der
import AuthsProof.Lib.Json
import AuthsProof.Lib.Machine
import AuthsProof.Lib.Memo
import AuthsProof.Lib.PostOrder
import AuthsProof.Lib.Scan
import AuthsProof.Lib.Utf8
import AuthsProof.Lifecycle.ReceiptDigest
import AuthsProof.Lifecycle.Reconciliation
import AuthsProof.ObservationChain
import AuthsProof.ObservationSignature
import AuthsProof.Oidc.TokenJson
import AuthsProof.PlanOrder
import AuthsProof.PlanTrace
import AuthsProof.PolicyCommitment
import AuthsProof.Receipts.Audit
import AuthsProof.Receipts.AuditRoundTrip
import AuthsProof.Receipts.Formats
import AuthsProof.Receipts.Linkage
import AuthsProof.Sigstore.CertificateDer
import AuthsProof.Sigstore.EcdsaDer
import AuthsProof.SnapshotOrder
