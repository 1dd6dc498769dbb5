import Distsys.Compute.Admission
import Distsys.Crdt.Observed
import Distsys.Guarantees.Catchup
import Distsys.Guarantees.Convergence
import Distsys.Guarantees.Lockstep
import Distsys.Guarantees.Sessions
import Distsys.Guarantees.Snapshots
import Distsys.Guarantees.Tokens
import Distsys.Guarantees.Updates
import Distsys.Membership.Exchange
import Distsys.Membership.Refutation
import Distsys.Membership.Rounds
import Distsys.Persistence.Canonical
import Distsys.Resilience.CircuitBreaker
import Distsys.Resilience.RateLimiter
import Distsys.Resilience.Retry
import Distsys.Transport.Decoder
