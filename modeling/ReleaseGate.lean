import ReleaseGate.Action.Laws
import ReleaseGate.Host.Machine
import ReleaseGate.Main
import ReleaseGate.Proofs.Likeness
import ReleaseGate.Proofs.Operation
import ReleaseGate.Proofs.Access
import ReleaseGate.Proofs.Follow
import ReleaseGate.Proofs.Latest
import ReleaseGate.Proofs.Licenses
import ReleaseGate.Proofs.Redaction
import ReleaseGate.Proofs.Supported
import ReleaseGate.Proofs.Questions
import ReleaseGate.Proofs.Entitlement
import ReleaseGate.Proofs.Delivery
import ReleaseGate.Proofs.Lookup
import ReleaseGate.Proofs.Listed
import ReleaseGate.Proofs.Newest
import ReleaseGate.Proofs.Isolation
import ReleaseGate.Proofs.Managed
import ReleaseGate.Proofs.Pinned
import ReleaseGate.Proofs.FailStop
import ReleaseGate.Proofs.Leeway
import ReleaseGate.Proofs.Exact
import ReleaseGate.Proofs.Secrets
import ReleaseGate.Proofs.Veil
import ReleaseGate.Proofs.Relinked
import ReleaseGate.Proofs.Addressed
import ReleaseGate.Proofs.Mark
import ReleaseGate.Proofs.MarkedLink
import ReleaseGate.Proofs.Confined
import ReleaseGate.Proofs.LogLines
import ReleaseGate.Proofs.InnerStatus
import ReleaseGate.Proofs.Stages
import ReleaseGate.Proofs.LastAnswer
import ReleaseGate.Proofs.Precedence
import ReleaseGate.Proofs.Monotone
import ReleaseGate.Proofs.Ending
import ReleaseGate.Proofs.LicensedUrl
import ReleaseGate.Proofs.Naming
import ReleaseGate.Proofs.Listing
import ReleaseGate.Proofs.Headers
import ReleaseGate.Proofs.LatestRecord
import ReleaseGate.Proofs.Lifetime
import ReleaseGate.Proofs.Traversal
