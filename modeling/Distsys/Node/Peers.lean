import Distsys.Node.Storage

/-!
# Exchanges with peers

The coroutines of `CrdtPeerClient` and of its adapters.
-/

namespace Distsys

/-- Send a request and wait for its reply. -/
def exchange (target : NodeId) (request : Request) : Code Reply := do
  let correlation ← perform (.send target request)
  let outcome ← perform (.receive correlation)
  Prog.ofExcept outcome

namespace CrdtPeerClient

variable (deployment : Deployment) (id : NodeId)

/-- Check the reply to a request that is answered by a `CrdtResponse`. -/
def readResponse (raiseRemote : Bool) (reply : Reply) : Except PyError CrdtResponseData :=
  match reply with
  | .digest _ => .error ⟨.connectionError, "expected CRDT_RESPONSE"⟩
  | .response msg => do
      let decoded ← responseFromProto deployment.json msg
      if raiseRemote && !decoded.success then
        throw ⟨.crdtRemoteError (decoded.errorCode.getD .internalError), decoded.errorMessage⟩
      else return decoded

/-- `_crdt_round_trip`. -/
def crdtRoundTrip (target : NodeId) (request : Request) (raiseRemote : Bool) :
    Code CrdtResponseData := do
  let reply ← exchange target request
  Prog.ofExcept (readResponse deployment raiseRemote reply)

/-- `replicate`. -/
def replicate (target : NodeId) (state : StoredCrdtEntry) : Code Unit := do
  let msg ← Prog.ofExcept (replicationToProto state)
  let _ ← crdtRoundTrip deployment target (.replicate msg) true
  return ()

/-- `fetch`. -/
def fetch (target : NodeId) (key : PyStr) : Code CrdtResponseData := do
  let msg ← Prog.ofExcept (fetchRequestToProto key)
  crdtRoundTrip deployment target (.fetch msg) false

/-- `digest`. -/
def digest (target : NodeId) (entries : List CrdtDigestEntry) (batchSize : Nat) :
    Code (List CrdtDigestEntry) := do
  let msg ← Prog.ofExcept (digestRequestToProto id.val entries batchSize)
  match ← exchange target (.digest msg) with
  | .response _ => throw ⟨.connectionError, "expected CRDT_DIGEST_RESPONSE"⟩
  | .digest reply => Prog.ofExcept (digestResponseFromProto reply)

/-- The time left for a forwarded request, at least one millisecond. -/
def forwardingTime : Code Nat := do
  let left : Nat ← perform .remaining
  if left = 0 then throw ⟨.deadlineExceeded, "CRDT request deadline exceeded before forwarding"⟩
  return left

/-- `forward_mutation`. -/
def forwardMutation (target : NodeId) (request : CrdtMutationData) : Code CrdtResponseData := do
  let left ← forwardingTime
  let forwarded := { request with
    forwarded := true
    originNodeId := if request.originNodeId = [] then id.val else request.originNodeId
    remainingTimeoutMs := left }
  let msg ← Prog.ofExcept (mutationRequestToProto forwarded)
  crdtRoundTrip deployment target (.mutate msg) true

/-- `forward_read`. -/
def forwardRead (target : NodeId) (request : CrdtReadData) : Code CrdtResponseData := do
  let left ← forwardingTime
  let forwarded := { request with
    forwarded := true
    originNodeId := if request.originNodeId = [] then id.val else request.originNodeId
    remainingTimeoutMs := left }
  let msg ← Prog.ofExcept (readRequestToProto forwarded)
  crdtRoundTrip deployment target (.read msg) true

end CrdtPeerClient

namespace AntiEntropyPeer

variable (deployment : Deployment) (id : NodeId)

/-- `exchange_digest`. -/
def exchangeDigest (target : NodeId) (digestEntries : List CrdtDigestEntry) :
    Code (List CrdtDigestEntry) :=
  CrdtPeerClient.digest id target digestEntries (max 1 digestEntries.length)

/-- `fetch_state`. -/
def fetchState (target : NodeId) (key : PyStr) : Code (Option StoredCrdtEntry) := do
  let response ← CrdtPeerClient.fetch deployment target key
  return if response.success then response.state else none

/-- `send_state`. -/
def sendState (target : NodeId) (state : StoredCrdtEntry) : Code Unit :=
  CrdtPeerClient.replicate deployment target state

/-- `send_metadata`. -/
def sendMetadata (target : NodeId) (key : PyStr) (causalContext : VersionVector) : Code Unit := do
  match ← perform (.get key) with
  | none => return ()
  | some current => do
      let digest : CrdtDigestEntry :=
        ⟨current.key, current.crdtType, current.stateVersion, causalContext⟩
      let _ ← CrdtPeerClient.digest id target [digest] 1
      return ()

end AntiEntropyPeer

end Distsys
